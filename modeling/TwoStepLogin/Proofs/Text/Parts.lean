import TwoStepLogin.Proofs.Text.Blanks

/-!
# Parts of a text are found again

Texts without a separator can be joined by it and cut again, and the first separator in a text is
where it is cut in two. What stands around a text does not count when it consists of blanks.

* `Text.splitOn_intercalate` — parts joined by a separator;
* `Text.splitOnce_append` — two parts with the first separator between them;
* `Text.trimChars_append`, `Text.trimChars_blanks_append` — blanks around and before a text.
-/

set_option autoImplicit false

namespace TwoStepLogin.Text

variable {separator : Char} {cs before after : List Char} {parts : List (List Char)}

/-! ## Separators -/

/-- It is the library's way to cut a list. -/
theorem splitOn_eq (separator : Char) (cs : List Char) :
    splitOn separator cs = cs.splitOn separator := by
  induction cs with
  | nil => rfl
  | cons c cs ih =>
    rw [splitOn, ih, List.splitOn_eq_splitOnP, List.splitOn_eq_splitOnP,
      List.splitOnP_cons_eq_if_modifyHead]
    by_cases hc : c = separator
    · rw [if_pos hc, if_pos (beq_iff_eq.2 hc)]
    · rw [if_neg hc, if_neg (by rwa [beq_iff_eq])]
      cases hparts : cs.splitOnP (· == separator) with
      | nil => exact absurd hparts (List.splitOnP_ne_nil _ _)
      | cons part parts => rfl

/-- Parts without the separator are found where they were joined. -/
theorem splitOn_intercalate (hne : parts ≠ []) (h : ∀ part ∈ parts, separator ∉ part) :
    splitOn separator ([separator].intercalate parts) = parts := by
  rw [splitOn_eq]
  exact List.splitOn_intercalate separator h hne

/-- A text is cut in two at its first separator. -/
theorem splitOnce_append (h : separator ∉ before) (after : List Char) :
    splitOnce separator (before ++ separator :: after) = some (before, after) := by
  induction before with
  | nil => exact if_pos rfl
  | cons c before ih =>
    rw [List.mem_cons, not_or] at h
    rw [List.cons_append, splitOnce, if_neg (Ne.symm h.1), ih h.2]
    rfl

/-! ## Blanks -/

/-- Blanks before a text do not count. -/
theorem trimChars_blanks_append (hbefore : ∀ c ∈ before, isBlank c = true) (cs : List Char) :
    trimChars (before ++ cs) = trimChars cs := by
  rw [trimChars, List.dropWhile_append_of_pos hbefore]
  rfl

/-- Blanks on either side of a text that neither begins nor ends with one. -/
theorem trimChars_append (hbefore : ∀ c ∈ before, isBlank c = true)
    (hafter : ∀ c ∈ after, isBlank c = true) (hfirst : ∀ c, cs.head? = some c → isBlank c = false)
    (hlast : ∀ c, cs.getLast? = some c → isBlank c = false) :
    trimChars (before ++ cs ++ after) = cs :=
  trimChars_eq_iff.2 ⟨⟨before, after, rfl, hbefore, hafter⟩, hfirst, hlast⟩

/-- A text without blanks stays. -/
theorem trimChars_eq_self (h : ∀ c ∈ cs, isBlank c = false) : trimChars cs = cs :=
  trimChars_eq_iff.2 ⟨⟨[], [], by simp, nofun, nofun⟩, fun c hc => h c (List.mem_of_head? hc),
    fun c hc => h c (List.mem_of_getLast? hc)⟩

end TwoStepLogin.Text
