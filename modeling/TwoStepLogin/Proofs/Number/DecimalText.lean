import Mathlib.Data.Nat.Digits.Lemmas
import TwoStepLogin.Proofs.Json.TokenRoom

/-!
# What decimal text spells

A number is read from a text if and only if the text spells it: digits by their places, with a sign
where there may be one. The range needs no word of its own, since only numbers of the type asked for
can be spelled; a text that spells a greater number is refused, as is one that spells none.

* `Decimal.Digits` — one or more digits that denote a number;
* `Decimal.Unsigned`, `Decimal.Signed` — the same with an optional sign;
* `Decimal.uint16?_eq_some_iff` and likewise for the other types;
* `Decimal.exists_signed` — every whole number is spelled by some text.
-/

set_option autoImplicit false

namespace TwoStepLogin.Decimal

variable {cs : List Char} {n m : Nat}

/-- One or more digits that denote a number, the last one counting ones, the one before it tens. -/
def Digits (cs : List Char) (n : Nat) : Prop :=
  ∃ ds : List Nat, ds ≠ [] ∧ (∀ d ∈ ds, d < 10) ∧ cs = ds.map Nat.digitChar ∧
    n = Nat.ofDigits 10 ds.reverse

/-- Digits, with at most one plus sign before them. -/
def Unsigned (cs : List Char) (n : Nat) : Prop :=
  Digits cs n ∨ ∃ rest, cs = '+' :: rest ∧ Digits rest n

/-- Digits, with at most one sign before them. -/
def Signed (cs : List Char) (i : Int) : Prop :=
  (∃ n : Nat, Unsigned cs n ∧ i = n) ∨ ∃ rest, ∃ n : Nat, cs = '-' :: rest ∧ Digits rest n ∧ i = -n

/-! ## Digits -/

theorem digit?_eq_some_iff {c : Char} {d : Nat} :
    digit? c = some d ↔ d < 10 ∧ c = Nat.digitChar d := by
  constructor
  · intro h
    have hlt := Json.Numeral.digit?_lt h
    refine ⟨hlt, ?_⟩
    have hc : c.toNat = 48 + d := by
      rw [digit?] at h
      split at h
      · rename_i hc
        have : 48 ≤ c.toNat := hc.1
        cases h
        omega
      · cases h
    rw [← Char.ofNat_toNat (c := c), hc]
    clear h hc
    decide +revert
  · rintro ⟨hlt, rfl⟩
    exact Json.Numeral.digit?_digitChar d hlt

/-- A digit that is read next moves what was read before up by one place. -/
theorem next_place (n d : Nat) (ds : List Nat) :
    n * 10 ^ (d :: ds).length + Nat.ofDigits 10 (d :: ds).reverse =
      (10 * n + d) * 10 ^ ds.length + Nat.ofDigits 10 ds.reverse := by
  rw [List.reverse_cons, Nat.ofDigits_append, Nat.ofDigits_singleton, List.length_reverse,
    List.length_cons, pow_succ]
  ring

/-- Digits behind a number that was read already. -/
theorem digits?_eq_some_iff : digits? n cs = some m ↔ ∃ ds : List Nat, (∀ d ∈ ds, d < 10) ∧
    cs = ds.map Nat.digitChar ∧ m = n * 10 ^ ds.length + Nat.ofDigits 10 ds.reverse := by
  induction cs generalizing n with
  | nil => simp [digits?, eq_comm]
  | cons c cs ih =>
    rw [digits?, Option.bind_eq_some_iff]
    constructor
    · rintro ⟨d, hd, h⟩
      obtain ⟨hlt, rfl⟩ := digit?_eq_some_iff.1 hd
      obtain ⟨ds, hds, rfl, rfl⟩ := ih.1 h
      exact ⟨d :: ds, List.forall_mem_cons.2 ⟨hlt, hds⟩, rfl, (next_place n d ds).symm⟩
    · rintro ⟨_ | ⟨d, ds⟩, hds, hcs, rfl⟩
      · cases hcs
      obtain ⟨hlt, hds⟩ := List.forall_mem_cons.1 hds
      obtain ⟨rfl, rfl⟩ := List.cons.inj hcs
      exact ⟨d, digit?_eq_some_iff.2 ⟨hlt, rfl⟩, ih.2 ⟨ds, hds, rfl, next_place n d ds⟩⟩

theorem natural?_eq_some_iff : natural? cs = some n ↔ Digits cs n := by
  cases cs with
  | nil =>
    constructor
    · intro h
      cases h
    · rintro ⟨ds, hne, -, hnil, -⟩
      exact absurd (List.map_eq_nil_iff.1 hnil.symm) hne
  | cons c cs =>
    rw [natural?, digits?_eq_some_iff]
    constructor
    · rintro ⟨ds, hds, hcs, rfl⟩
      have hne : ds ≠ [] := by
        rintro rfl
        cases hcs
      exact ⟨ds, hne, hds, hcs, by rw [Nat.zero_mul, Nat.zero_add]⟩
    · rintro ⟨ds, -, hds, hcs, rfl⟩
      exact ⟨ds, hds, hcs, by rw [Nat.zero_mul, Nat.zero_add]⟩

/-- Digits start with a digit. -/
theorem Digits.head (h : Digits cs n) : ∃ c rest, cs = c :: rest ∧ c.isDigit = true := by
  obtain ⟨_ | ⟨d, ds⟩, hne, hds, rfl, -⟩ := h
  · exact absurd rfl hne
  · have hd := hds d List.mem_cons_self
    refine ⟨_, _, rfl, ?_⟩
    clear hne hds
    decide +revert

/-! ## Signs -/

theorem not_digits_sign {sign : Char} (hsign : sign.isDigit = false) : ¬ Digits (sign :: cs) n := by
  intro h
  obtain ⟨c, rest, hcs, hc⟩ := h.head
  rw [← (List.cons.inj hcs).1, hsign] at hc
  cases hc

theorem natural?_dropPlus_eq_some_iff : natural? (dropPlus cs) = some n ↔ Unsigned cs n := by
  rw [dropPlus.eq_def]
  split
  · rename_i rest
    rw [natural?_eq_some_iff]
    constructor
    · exact fun h => .inr ⟨rest, rfl, h⟩
    · rintro (h | ⟨_, hrest, h⟩)
      · exact absurd h (not_digits_sign rfl)
      · cases hrest
        exact h
  · rename_i hplus
    rw [natural?_eq_some_iff]
    constructor
    · exact .inl
    · rintro (h | ⟨rest, rfl, -⟩)
      · exact h
      · exact absurd rfl (hplus rest)

theorem unsigned?_eq_some_iff {bound : Nat} :
    unsigned? bound cs = some n ↔ Unsigned cs n ∧ n ≤ bound := by
  rw [unsigned?, Option.bind_eq_some_iff]
  constructor
  · rintro ⟨m, hm, h⟩
    split at h
    · rename_i hle
      cases h
      exact ⟨natural?_dropPlus_eq_some_iff.1 hm, hle⟩
    · cases h
  · rintro ⟨h, hle⟩
    exact ⟨n, natural?_dropPlus_eq_some_iff.2 h, if_pos hle⟩

theorem signed_minus_iff {rest : List Char} {i : Int} :
    Signed ('-' :: rest) i ↔ ∃ n, Digits rest n ∧ -(n : Int) = i := by
  constructor
  · rintro (⟨n, h | ⟨_, hrest, -⟩, -⟩ | ⟨_, n, hrest, h, rfl⟩)
    · exact absurd h (not_digits_sign rfl)
    · cases hrest
    · cases hrest
      exact ⟨n, h, rfl⟩
  · rintro ⟨n, h, rfl⟩
    exact .inr ⟨rest, n, rfl, h, rfl⟩

theorem signed_iff_of_no_minus {i : Int} (hcs : ∀ rest, cs ≠ '-' :: rest) :
    Signed cs i ↔ ∃ n, Unsigned cs n ∧ (n : Int) = i := by
  constructor
  · rintro (⟨n, h, rfl⟩ | ⟨rest, _, hrest, -⟩)
    · exact ⟨n, h, rfl⟩
    · exact absurd hrest (hcs rest)
  · rintro ⟨n, h, rfl⟩
    exact .inl ⟨n, h, rfl⟩

theorem signed?_eq_some_iff {least greatest i : Int} :
    signed? least greatest cs = some i ↔ Signed cs i ∧ least ≤ i ∧ i ≤ greatest := by
  have hrange (read : Option Int) :
      (read.bind fun j => if least ≤ j ∧ j ≤ greatest then some j else none) = some i ↔
        read = some i ∧ least ≤ i ∧ i ≤ greatest := by
    cases read with
    | none => simp
    | some j =>
      rw [Option.bind_some, Option.ite_none_right_eq_some, Option.some.injEq]
      constructor
      · rintro ⟨h, rfl⟩
        exact ⟨rfl, h⟩
      · rintro ⟨rfl, h⟩
        exact ⟨h, rfl⟩
  rw [signed?.eq_def, hrange]
  refine and_congr_left fun _ => ?_
  split
  · simp [signed_minus_iff, Option.bind_eq_some_iff, natural?_eq_some_iff]
  · rename_i hcs
    simp [signed_iff_of_no_minus hcs, Option.bind_eq_some_iff, natural?_dropPlus_eq_some_iff]

/-! ## Types -/

/-- Numbers of a type that is counted by the numbers up to a bound. -/
theorem map_unsigned?_eq_some_iff {α : Type} {bound : Nat} {ofNat : Nat → α} {toNat : α → Nat}
    (hle : ∀ x, toNat x ≤ bound) (hofNat : ∀ x, ofNat (toNat x) = x)
    (htoNat : ∀ n ≤ bound, toNat (ofNat n) = n) {x : α} :
    (unsigned? bound cs).map ofNat = some x ↔ Unsigned cs (toNat x) := by
  simp only [Option.map_eq_some_iff, unsigned?_eq_some_iff]
  constructor
  · rintro ⟨n, ⟨h, hn⟩, rfl⟩
    rwa [htoNat n hn]
  · exact fun h => ⟨toNat x, ⟨h, hle x⟩, hofNat x⟩

variable {s : String}

theorem uint16?_eq_some_iff {x : UInt16} : uint16? s = some x ↔ Unsigned s.toList x.toNat :=
  map_unsigned?_eq_some_iff (fun x => Nat.le_of_lt_succ x.toNat_lt) (fun _ => UInt16.ofNat_toNat)
    fun _ hn => UInt16.toNat_ofNat_of_lt' (Nat.lt_succ_of_le hn)

theorem uint32?_eq_some_iff {x : UInt32} : uint32? s = some x ↔ Unsigned s.toList x.toNat :=
  map_unsigned?_eq_some_iff (fun x => Nat.le_of_lt_succ x.toNat_lt) (fun _ => UInt32.ofNat_toNat)
    fun _ hn => UInt32.toNat_ofNat_of_lt' (Nat.lt_succ_of_le hn)

theorem uint64?_eq_some_iff {x : UInt64} : uint64? s = some x ↔ Unsigned s.toList x.toNat :=
  map_unsigned?_eq_some_iff (fun x => Nat.le_of_lt_succ x.toNat_lt) (fun _ => UInt64.ofNat_toNat)
    fun _ hn => UInt64.toNat_ofNat_of_lt' (Nat.lt_succ_of_le hn)

theorem int64?_eq_some_iff {x : Int64} : int64? s = some x ↔ Signed s.toList x.toInt := by
  simp only [int64?, Option.map_eq_some_iff, signed?_eq_some_iff]
  constructor
  · rintro ⟨i, ⟨h, hlow, hhigh⟩, rfl⟩
    rwa [Int64.toInt_ofInt_of_le hlow (Int.lt_add_one_of_le hhigh)]
  · exact fun h => ⟨x.toInt, ⟨h, x.le_toInt, x.toInt_le⟩, Int64.ofInt_toInt x⟩

theorem boolean?_eq_some_iff {b : Bool} : boolean? s = some b ↔ s = toString b := by
  rw [boolean?]
  split
  · rename_i h
    subst h
    cases b <;> decide
  · rename_i h
    cases b
    · simp [toString]
    · simp [toString, h]

/-! ## Texts -/

/-- Every number is denoted by some digits. -/
theorem exists_digits (n : Nat) : ∃ cs, Digits cs n := by
  obtain rfl | hn := Nat.eq_zero_or_pos n
  · exact ⟨['0'], [0], List.cons_ne_nil _ _, by simp, rfl, rfl⟩
  · refine ⟨_, (Nat.digits 10 n).reverse, ?_, ?_, rfl, ?_⟩
    · rw [Ne, List.reverse_eq_nil_iff]
      exact Nat.digits_ne_nil_iff_ne_zero.2 hn.ne'
    · intro d hd
      exact Nat.digits_lt_base (by decide) (List.mem_reverse.1 hd)
    · rw [List.reverse_reverse, Nat.ofDigits_digits]

/-- Every whole number is spelled by some text. -/
theorem exists_signed (i : Int) : ∃ cs, Signed cs i := by
  obtain ⟨cs, hcs⟩ := exists_digits i.natAbs
  rcases Int.natAbs_eq i with hi | hi
  · exact ⟨cs, .inl ⟨_, .inl hcs, hi⟩⟩
  · exact ⟨'-' :: cs, .inr ⟨cs, _, rfl, hcs, hi⟩⟩

end TwoStepLogin.Decimal
