import Mathlib.Data.List.DropRight
import TwoStepLogin.Text.Blank

/-!
# Texts without the blanks at their ends

A text without the blanks at its two ends is what stands between them, and neither begins nor ends
with a blank itself. There is only one such text, so that taking the blanks away again changes
nothing.

* `Text.Trimmed` — one text is another one without the blanks at its ends;
* `Text.trimChars_eq_iff` — this is what trimming does;
* `Text.trimChars_eq_nil_iff`, `Text.mem_trimChars_iff` — what is left.
-/

set_option autoImplicit false

namespace TwoStepLogin.Text

/-- The characters `inner` are what stands in `cs` between the blanks at its ends. -/
structure Trimmed (cs inner : List Char) : Prop where
  around : ∃ before after, cs = before ++ inner ++ after ∧ (∀ c ∈ before, isBlank c = true) ∧
    ∀ c ∈ after, isBlank c = true
  first : ∀ c, inner.head? = some c → isBlank c = false
  last : ∀ c, inner.getLast? = some c → isBlank c = false

variable {cs inner : List Char}

theorem trimmed_trimChars (cs : List Char) : Trimmed cs (trimChars cs) where
  around := by
    refine ⟨cs.takeWhile isBlank, (cs.dropWhile isBlank).rtakeWhile isBlank, ?_, ?_, ?_⟩
    · have hend : trimChars cs ++ (cs.dropWhile isBlank).rtakeWhile isBlank = cs.dropWhile isBlank :=
        List.rdropWhile_append_rtakeWhile
      rw [List.append_assoc, hend, List.takeWhile_append_dropWhile]
    · exact fun c hc => List.mem_takeWhile_imp hc
    · exact fun c hc => List.mem_rtakeWhile_imp hc
  first := by
    intro c hc
    have hprefix : trimChars cs <+: cs.dropWhile isBlank := List.rdropWhile_prefix isBlank _
    obtain ⟨rest, hrest⟩ := List.head?_eq_some_iff.1 hc
    obtain ⟨more, hmore⟩ := hprefix
    have hhead := List.head?_dropWhile_not isBlank cs
    rw [← hmore, hrest] at hhead
    exact hhead
  last := by
    intro c hc
    have hne : trimChars cs ≠ [] := by
      intro hnil
      rw [hnil] at hc
      cases hc
    have hlast := List.rdropWhile_last_not isBlank (cs.dropWhile isBlank) hne
    rw [List.getLast?_eq_some_getLast hne] at hc
    cases hc
    exact Bool.eq_false_iff.2 hlast

/-- Blanks at the end are dropped, up to the first other character. -/
theorem trimEndChars_append {after : List Char} (hafter : ∀ c ∈ after, isBlank c = true)
    (hlast : ∀ c, inner.getLast? = some c → isBlank c = false) :
    trimEndChars (inner ++ after) = inner := by
  have hblank : ∀ c ∈ after.reverse, isBlank c = true := fun c hc => hafter c (List.mem_reverse.1 hc)
  have hself : inner.rdropWhile isBlank = inner := by
    rw [List.rdropWhile_eq_self_iff]
    intro hne
    rw [Bool.not_eq_true]
    exact hlast _ (List.getLast?_eq_some_getLast hne)
  rw [trimEndChars, List.reverse_append, List.dropWhile_append_of_pos hblank]
  exact hself

/-- Trimming is taking away the blanks at both ends. -/
theorem trimChars_eq_iff : trimChars cs = inner ↔ Trimmed cs inner := by
  constructor
  · rintro rfl
    exact trimmed_trimChars cs
  · intro h
    obtain ⟨before, after, rfl, hbefore, hafter⟩ := h.around
    rw [trimChars, List.append_assoc, List.dropWhile_append_of_pos hbefore]
    cases inner with
    | nil =>
      rw [List.nil_append, List.dropWhile_eq_nil_iff.2 hafter]
      rfl
    | cons c rest =>
      have hc : ¬isBlank c = true := Bool.eq_false_iff.1 (h.first c rfl)
      rw [List.cons_append, List.dropWhile_cons_of_neg hc]
      exact trimEndChars_append hafter h.last

theorem trimChars_trimChars (cs : List Char) : trimChars (trimChars cs) = trimChars cs := by
  have h := trimmed_trimChars cs
  exact trimChars_eq_iff.2 ⟨⟨[], [], by simp, by simp, by simp⟩, h.first, h.last⟩

theorem trim_trim (s : String) : trim (trim s) = trim s := by
  rw [trim, trim, String.toList_ofList, trimChars_trimChars]

/-- Characters that are no blanks stay. -/
theorem mem_trimChars_iff {c : Char} (hc : isBlank c = false) : c ∈ trimChars cs ↔ c ∈ cs := by
  obtain ⟨before, after, he, hbefore, hafter⟩ := (trimmed_trimChars cs).around
  have hout {blanks : List Char} (hblanks : ∀ d ∈ blanks, isBlank d = true) : c ∉ blanks := by
    intro hmem
    rw [hblanks c hmem] at hc
    cases hc
  constructor
  · intro hmem
    rw [he]
    exact List.mem_append_left _ (List.mem_append_right _ hmem)
  · intro hmem
    rw [he, List.mem_append, List.mem_append] at hmem
    rcases hmem with (hmem | hmem) | hmem
    · exact absurd hmem (hout hbefore)
    · exact hmem
    · exact absurd hmem (hout hafter)

/-- Nothing is left just of blanks. -/
theorem trimChars_eq_nil_iff : trimChars cs = [] ↔ ∀ c ∈ cs, isBlank c = true := by
  constructor
  · intro hnil c hc
    by_contra hblank
    have hleft := (mem_trimChars_iff (Bool.eq_false_iff.2 hblank)).2 hc
    rw [hnil] at hleft
    cases hleft
  · intro hall
    exact trimChars_eq_iff.2 ⟨⟨cs, [], by simp, hall, by simp⟩, by simp, by simp⟩

end TwoStepLogin.Text
