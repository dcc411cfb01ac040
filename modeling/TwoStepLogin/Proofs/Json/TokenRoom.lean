import Mathlib.Data.List.Induction
import TwoStepLogin.Proofs.Json.Tokens

/-!
# The room of what is read

How much of a text its tokens take up. A string or a whole number never takes less room than the
printer would give it: the printer escapes only what must be escaped, with the shortest escape there
is, and whole numbers are read from their digits only.

* `Json.Parser.text_room` — strings;
* `Json.Numeral.read?_taken`, `Json.Numeral.toNumber?_integer` — numbers;
* `Json.Parser.length_of_skipSpace`, `Json.Parser.word?_eq` — white space and words.
-/

set_option autoImplicit false

namespace TwoStepLogin.Json

open Printer

variable {cs rest : List Char}

/-! ## White space and words -/

namespace Parser

theorem length_skipSpace_le (cs : List Char) : (skipSpace cs).length ≤ cs.length :=
  (List.dropWhile_sublist isSpace).length_le

/-- White space and one more character take room. -/
theorem length_of_skipSpace {c : Char} {after : List Char} (h : skipSpace cs = c :: after) :
    after.length + 1 ≤ cs.length := by
  have hle := length_skipSpace_le cs
  rwa [h, List.length_cons] at hle

theorem word?_eq {w : List Char} (h : word? w cs = some rest) : cs = w ++ rest := by
  rw [word?] at h
  split at h
  · rename_i hw
    obtain ⟨t, rfl⟩ := List.isPrefixOf_iff_prefix.1 hw
    cases h
    rw [List.drop_left]
  · cases h

/-! ## Strings -/

theorem length_escaped_le (c : Char) : (escaped c).length ≤ 6 := by
  rw [escaped]
  repeat' split
  all_goals simp

theorem length_escaped_simple {e c : Char} (h : simpleEscape? e = some c) :
    (escaped c).length ≤ 2 := by
  revert h
  rw [simpleEscape?.eq_def]
  split
  all_goals
    intro h
    cases h
    try decide

theorem hex4?_length {n : Nat} (h : hex4? cs = some (n, rest)) : cs.length = rest.length + 4 := by
  rw [hex4?.eq_def] at h
  split at h
  · simp only [Option.bind_eq_bind, Option.bind_eq_some_iff] at h
    obtain ⟨_, -, _, -, _, -, _, -, h⟩ := h
    cases h
    rfl
  · cases h

theorem unicodeEscape?_length {c : Char} (h : unicodeEscape? cs = some (c, rest)) :
    rest.length + 4 ≤ cs.length := by
  rw [unicodeEscape?] at h
  split at h
  · cases h
  rename_i n rest₁ hn
  have hl := hex4?_length hn
  split at h
  · cases h
  split at h
  · split at h
    · split at h
      · rename_i rest₂ _ m rest₃ hm
        split at h
        · simp only [Option.some.injEq, Prod.mk.injEq] at h
          obtain ⟨-, rfl⟩ := h
          have hl₂ := hex4?_length hm
          simp only [List.length_cons] at hl
          omega
        · cases h
      · cases h
    · cases h
  · simp only [Option.some.injEq, Prod.mk.injEq] at h
    obtain ⟨-, rfl⟩ := h
    omega

/-- The characters of a string take at least as much room in the text as in its compact form. -/
theorem stringBody_room {fuel : Nat} {xs : List Char} (h : stringBody fuel cs = some (xs, rest)) :
    (xs.flatMap escaped).length + 1 + rest.length ≤ cs.length := by
  induction fuel generalizing cs xs rest with
  | zero => cases h
  | succ fuel ih =>
    cases cs with
    | nil => cases h
    | cons c cs =>
      simp only [stringBody] at h
      split at h
      · cases h
        simp [Nat.add_comm]
      split at h
      · split at h
        · cases h
        rename_i e cs
        split at h
        · rename_i x after hx
          obtain ⟨⟨ys, end'⟩, hys, h⟩ := Option.map_eq_some_iff.1 h
          cases h
          have hroom := ih hys
          have hescape : (escaped x).length + after.length ≤ cs.length + 2 := by
            split at hx
            · have := unicodeEscape?_length hx
              have := length_escaped_le x
              omega
            · obtain ⟨y, hy, hx⟩ := Option.map_eq_some_iff.1 hx
              cases hx
              have := length_escaped_simple hy
              omega
          simp only [List.flatMap_cons, List.length_append, List.length_cons]
          omega
        · cases h
      split at h
      · cases h
      · rename_i hquote hbackslash hcontrol
        obtain ⟨⟨ys, end'⟩, hys, h⟩ := Option.map_eq_some_iff.1 h
        cases h
        have hroom := ih hys
        have hplain : escaped c = [c] := by
          rw [escaped, if_neg hquote, if_neg hbackslash, if_neg hcontrol]
        simp only [List.flatMap_cons, hplain, List.length_append, List.length_cons,
          List.length_nil]
        omega

theorem text_room {s : String} (h : text cs = some (s, rest)) :
    (quoted s).length + rest.length ≤ cs.length + 1 := by
  obtain ⟨⟨xs, after⟩, hxs, h⟩ := Option.map_eq_some_iff.1 h
  cases h
  have hroom := stringBody_room hxs
  simp only [quoted, String.toList_ofList, List.length_append, List.length_cons, List.length_nil]
  omega

end Parser

/-! ## Numbers -/

namespace Numeral

theorem digit?_lt {c : Char} {digit : Nat} (h : Decimal.digit? c = some digit) : digit < 10 := by
  rw [Decimal.digit?] at h
  split at h
  · rename_i hc
    cases h
    have : c.toNat ≤ 57 := hc.2
    omega
  · cases h

theorem takeDigits_spec (cs : List Char) :
    (takeDigits cs).1.length + (takeDigits cs).2.length = cs.length ∧
      ∀ digit ∈ (takeDigits cs).1, digit < 10 := by
  induction cs with
  | nil => exact ⟨rfl, fun _ h => absurd h List.not_mem_nil⟩
  | cons c cs ih =>
    rw [takeDigits]
    split
    · rename_i digit hd
      obtain ⟨hl, hlt⟩ := ih
      refine ⟨by simp only [List.length_cons]; omega, fun x hx => ?_⟩
      obtain rfl | hx := List.mem_cons.1 hx
      · exact digit?_lt hd
      · exact hlt x hx
    · exact ⟨by simp, fun _ h => absurd h List.not_mem_nil⟩

/-- Digits, at least one of them, at the head of a text. -/
structure TakenDigits (ds : List Nat) (cs rest : List Char) : Prop where
  nonempty : ds ≠ []
  length : ds.length + rest.length = cs.length
  digits : ∀ digit ∈ ds, digit < 10

theorem takeWhole?_taken {ds : List Nat} (h : takeWhole? cs = some (ds, rest)) :
    TakenDigits ds cs rest := by
  obtain ⟨hl, hlt⟩ := takeDigits_spec cs
  rw [takeWhole?] at h
  generalize takeDigits cs = taken at h hl hlt
  -- Of the four clauses the second and the last one answer, with all the digits there are.
  split at h
  · cases h
  · cases h
    exact ⟨by simp, hl, hlt⟩
  · cases h
  · rename_i hne _ _
    cases h
    exact ⟨hne, hl, hlt⟩

theorem takeFraction?_shrinks {fraction : Option (List Nat)}
    (h : takeFraction? cs = some (fraction, rest)) : rest.length ≤ cs.length := by
  rw [takeFraction?.eq_def] at h
  split at h
  · rename_i cs
    have hl := (takeDigits_spec cs).1
    split at h
    · cases h
    · rename_i heq
      cases h
      simp only [heq, List.length_cons] at hl ⊢
      omega
  · cases h
    exact Nat.le_refl _

theorem takeExponentDigits?_shrinks {negative : Bool} {exponent : Option Int}
    (h : takeExponentDigits? negative cs = some (exponent, rest)) : rest.length ≤ cs.length := by
  have hl := (takeDigits_spec cs).1
  rw [takeExponentDigits?] at h
  split at h
  · cases h
  · rename_i heq
    cases h
    simp only [heq] at hl
    omega

theorem takeExponent?_shrinks {exponent : Option Int}
    (h : takeExponent? cs = some (exponent, rest)) : rest.length ≤ cs.length := by
  rw [takeExponent?.eq_def] at h
  split at h
  · split at h
    · split at h
      all_goals
        have := takeExponentDigits?_shrinks h
        simp only [List.length_cons] at *
        omega
    · cases h
      exact Nat.le_refl _
  · cases h
    exact Nat.le_refl _

theorem readUnsigned?_taken {negative : Bool} {numeral : Numeral}
    (h : readUnsigned? negative cs = some (numeral, rest)) :
    numeral.negative = negative ∧
      ∃ after, TakenDigits numeral.whole cs after ∧ rest.length ≤ after.length := by
  simp only [readUnsigned?, Option.bind_eq_bind, Option.bind_eq_some_iff] at h
  obtain ⟨⟨whole, cs₁⟩, hwhole, ⟨fraction, cs₂⟩, hfraction, ⟨exponent, cs₃⟩, hexponent, h⟩ := h
  cases h
  exact ⟨rfl, cs₁, takeWhole?_taken hwhole,
    Nat.le_trans (takeExponent?_shrinks hexponent) (takeFraction?_shrinks hfraction)⟩

/-- The room of the sign. -/
def signRoom (numeral : Numeral) : Nat := if numeral.negative then 1 else 0

/-- A number that was read has whole digits, and they and its sign were in the text. -/
theorem read?_taken {numeral : Numeral} (h : read? cs = some (numeral, rest)) :
    numeral.whole ≠ [] ∧ (∀ digit ∈ numeral.whole, digit < 10) ∧
      numeral.signRoom + numeral.whole.length + rest.length ≤ cs.length := by
  rw [read?.eq_def] at h
  split at h
  all_goals
    obtain ⟨hsign, after, htaken, hafter⟩ := readUnsigned?_taken h
    refine ⟨htaken.nonempty, htaken.digits, ?_⟩
    have hl := htaken.length
    rw [signRoom, hsign]
  · rw [if_pos rfl, List.length_cons]
    omega
  · rw [if_neg Bool.false_ne_true]
    omega

/-- The decimal form of a number is no longer than any digits of that value. -/
theorem length_toDigits_valueOf_le {ds : List Nat} (hne : ds ≠ [])
    (hlt : ∀ digit ∈ ds, digit < 10) : (Nat.toDigits 10 (valueOf ds)).length ≤ ds.length := by
  induction ds using List.reverseRecOn with
  | nil => exact absurd rfl hne
  | append_singleton ds digit ih =>
    have hdigit : digit < 10 := hlt digit (by simp)
    rw [valueOf_append, List.length_append, List.length_singleton]
    by_cases hds : ds = []
    · subst hds
      rw [show 10 * valueOf [] + digit = digit by simp [valueOf], Nat.toDigits_of_lt_base hdigit]
      simp
    have hroom := ih hds fun x hx => hlt x (List.mem_append_left _ hx)
    by_cases hsmall : 10 * valueOf ds + digit < 10
    · rw [Nat.toDigits_of_lt_base hsmall]
      simp
    · rw [Nat.toDigits_of_base_le (by decide) (Nat.le_of_not_lt hsmall), List.length_append,
        List.length_singleton, show (10 * valueOf ds + digit) / 10 = valueOf ds by omega]
      omega

/-- A number that stays whole fits 64 bits, and its decimal form is no longer than what was read. -/
theorem toNumber?_integer {numeral : Numeral} {i : Int} (hne : numeral.whole ≠ [])
    (hlt : ∀ digit ∈ numeral.whole, digit < 10) (h : numeral.toNumber? = some (.integer i)) :
    (-9223372036854775808 ≤ i ∧ i ≤ 18446744073709551615) ∧
      (Printer.integer i).length ≤ numeral.signRoom + numeral.whole.length := by
  have hroom := length_toDigits_valueOf_le hne hlt
  have hfloat : ∀ x : Option Binary64, x.map Number.float ≠ some (.integer i) := by
    rintro (_ | x) ⟨⟩
  simp only [toNumber?] at h
  split at h
  · rename_i hwhole
    have hn : valueOf numeral.whole ≤ 18446744073709551615 := by
      simp only [Bool.and_eq_true, decide_eq_true_eq] at hwhole
      exact hwhole.2
    split at h
    · rename_i hneg
      split at h
      · rename_i hsmall
        cases h
        refine ⟨⟨by omega, by omega⟩, ?_⟩
        obtain ⟨m, hm⟩ : ∃ m, valueOf numeral.whole = m + 1 :=
          ⟨valueOf numeral.whole - 1, by omega⟩
        rw [hm] at hroom ⊢
        have hprinted : Printer.integer (-((m + 1 : Nat) : Int)) = '-' :: Nat.toDigits 10 (m + 1) :=
          congrArg ('-' :: ·) Nat.toList_repr
        rw [signRoom, if_pos hneg, hprinted, List.length_cons]
        omega
      · exact absurd h (hfloat _)
    · cases h
      refine ⟨⟨by omega, by omega⟩, ?_⟩
      have hprinted : Printer.integer (valueOf numeral.whole : Nat) =
          Nat.toDigits 10 (valueOf numeral.whole) := Nat.toList_repr
      rw [hprinted]
      omega
  · exact absurd h (hfloat _)

end Numeral

end TwoStepLogin.Json
