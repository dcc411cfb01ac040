import TwoStepLogin.Json.Parser
import TwoStepLogin.Json.Printer

/-!
# Printed numbers and strings are read back

What the printer writes for a whole number or a string is read as that number or string again,
whatever text follows it. A number needs a text at which it ends, since more digits, a point or an
exponent would belong to it; a string ends by itself.

* `Json.Delimited` — a text at which a number ends;
* `Json.Numeral.digitsOf` — the decimal digits of a number;
* `Json.Numeral.read?_integer`, `Json.Parser.text_quoted` — reading back.
-/

set_option autoImplicit false

namespace TwoStepLogin.Json

/-- A text at which a number ends: nothing, or what may follow a value inside another one. -/
def Delimited : List Char → Prop
  | [] => True
  | c :: _ => c = ',' ∨ c = ']' ∨ c = '}'

theorem delimited_comma (cs : List Char) : Delimited (',' :: cs) := .inl rfl

theorem delimited_bracket (cs : List Char) : Delimited (']' :: cs) := .inr (.inl rfl)

theorem delimited_brace (cs : List Char) : Delimited ('}' :: cs) := .inr (.inr rfl)

variable {rest : List Char} {n : Nat}

/-! ## Whole numbers -/

namespace Numeral

theorem digit?_digitChar : ∀ d < 10, Decimal.digit? (Nat.digitChar d) = some d := by decide

/-- The decimal digits of a number. -/
def digitsOf (n : Nat) : List Nat := (Nat.toDigits 10 n).filterMap Decimal.digit?

theorem digitsOf_of_lt (hn : n < 10) : digitsOf n = [n] := by
  simp [digitsOf, Nat.toDigits_of_lt_base hn, digit?_digitChar n hn]

theorem digitsOf_of_le (hn : 10 ≤ n) : digitsOf n = digitsOf (n / 10) ++ [n % 10] := by
  simp [digitsOf, Nat.toDigits_of_base_le (by decide) hn,
    digit?_digitChar (n % 10) (Nat.mod_lt n (by decide))]

theorem valueOf_append (ds : List Nat) (d : Nat) : valueOf (ds ++ [d]) = 10 * valueOf ds + d := by
  simp [valueOf, List.foldl_append]

theorem valueOf_digitsOf (n : Nat) : valueOf (digitsOf n) = n := by
  induction n using Nat.strongRecOn with
  | ind n ih =>
    by_cases hn : n < 10
    · rw [digitsOf_of_lt hn]
      simp [valueOf]
    · rw [digitsOf_of_le (Nat.le_of_not_lt hn), valueOf_append, ih (n / 10) (by omega)]
      omega

/-- A positive number is written without leading zeros. -/
theorem digitsOf_leading (hn : 0 < n) : ∃ d ds, digitsOf n = d :: ds ∧ d ≠ 0 := by
  induction n using Nat.strongRecOn with
  | ind n ih =>
    by_cases h : n < 10
    · exact ⟨n, [], digitsOf_of_lt h, Nat.ne_of_gt hn⟩
    · obtain ⟨d, ds, hd, h0⟩ := ih (n / 10) (by omega) (by omega)
      refine ⟨d, ds ++ [n % 10], ?_, h0⟩
      rw [digitsOf_of_le (Nat.le_of_not_lt h), hd, List.cons_append]

theorem digit?_isSome_of_isDigit {c : Char} (hc : c.isDigit = true) :
    (Decimal.digit? c).isSome = true := by
  have h := Char.isDigit_iff_toNat.1 hc
  simp only [Decimal.digit?]
  rw [if_pos ⟨h.1, h.2⟩]
  rfl

/-- Digits are taken one by one. -/
theorem takeDigits_append {cs : List Char} (hcs : ∀ c ∈ cs, c.isDigit = true) :
    takeDigits (cs ++ rest) =
      (cs.filterMap Decimal.digit? ++ (takeDigits rest).1, (takeDigits rest).2) := by
  induction cs with
  | nil => rfl
  | cons c cs ih =>
    obtain ⟨d, hd⟩ := Option.isSome_iff_exists.1 (digit?_isSome_of_isDigit (hcs c (by simp)))
    simp [takeDigits, hd, ih fun x hx => hcs x (List.mem_cons_of_mem _ hx)]

theorem takeDigits_delimited (hr : Delimited rest) : takeDigits rest = ([], rest) := by
  cases rest with
  | nil => rfl
  | cons c cs => obtain rfl | rfl | rfl := hr <;> rfl

theorem takeDigits_toDigits (n : Nat) (hr : Delimited rest) :
    takeDigits (Nat.toDigits 10 n ++ rest) = (digitsOf n, rest) := by
  rw [takeDigits_append fun c hc => Nat.isDigit_of_mem_toDigits (by decide) (by decide) hc,
    takeDigits_delimited hr, List.append_nil, digitsOf]

theorem takeWhole?_toDigits (n : Nat) (hr : Delimited rest) :
    takeWhole? (Nat.toDigits 10 n ++ rest) = some (digitsOf n, rest) := by
  rw [takeWhole?, takeDigits_toDigits n hr]
  by_cases hn : n < 10
  · rw [digitsOf_of_lt hn]
  · obtain ⟨d, ds, hd, h0⟩ := digitsOf_leading (n := n / 10) (by omega)
    obtain ⟨d, rfl⟩ := Nat.exists_eq_succ_of_ne_zero h0
    rw [digitsOf_of_le (Nat.le_of_not_lt hn), hd]
    cases ds <;> rfl

theorem takeFraction?_delimited (hr : Delimited rest) : takeFraction? rest = some (none, rest) := by
  cases rest with
  | nil => rfl
  | cons c cs => obtain rfl | rfl | rfl := hr <;> rfl

theorem takeExponent?_delimited (hr : Delimited rest) : takeExponent? rest = some (none, rest) := by
  cases rest with
  | nil => rfl
  | cons c cs => obtain rfl | rfl | rfl := hr <;> rfl

theorem readUnsigned?_toDigits (negative : Bool) (n : Nat) (hr : Delimited rest) :
    readUnsigned? negative (Nat.toDigits 10 n ++ rest) =
      some (⟨negative, digitsOf n, none, none⟩, rest) := by
  simp [readUnsigned?, takeWhole?_toDigits n hr, takeFraction?_delimited hr,
    takeExponent?_delimited hr]

/-- Whether a number may start with a character. -/
def Leads (c : Char) : Prop := c = '-' ∨ c.isDigit = true

theorem Leads.ne {c other : Char} (hc : Leads c) (hm : other ≠ '-') (hd : other.isDigit = false) :
    c ≠ other := by
  rintro rfl
  obtain h | h := hc
  · exact hm h
  · rw [hd] at h
    cases h

theorem toDigits_head (n : Nat) :
    ∃ c cs, Nat.toDigits 10 n = c :: cs ∧ c.isDigit = true := by
  obtain ⟨c, cs, hc⟩ := List.exists_cons_of_ne_nil (Nat.toDigits_ne_nil (n := n) (b := 10))
  exact ⟨c, cs, hc, Nat.isDigit_of_mem_toDigits (by decide) (by decide) (hc ▸ List.mem_cons_self)⟩

theorem integer_head (i : Int) : ∃ c cs, Printer.integer i = c :: cs ∧ Leads c := by
  cases i with
  | ofNat n =>
    obtain ⟨c, cs, hc, hd⟩ := toDigits_head n
    exact ⟨c, cs, Nat.toList_repr.trans hc, .inr hd⟩
  | negSucc n => exact ⟨_, _, rfl, .inl rfl⟩

/-- Without a minus sign at its head a text is read as a number without sign. -/
theorem read?_of_digit {c : Char} {cs : List Char} (hc : c.isDigit = true) :
    read? (c :: cs) = readUnsigned? false (c :: cs) := by
  rw [read?.eq_2]
  rintro _ ⟨⟩
  cases hc

/-- A printed whole number is read back. -/
theorem read?_integer {i : Int} (hlow : -9223372036854775808 ≤ i)
    (hhigh : i ≤ 18446744073709551615) (hr : Delimited rest) :
    ∃ numeral, read? (Printer.integer i ++ rest) = some (numeral, rest) ∧
      numeral.toNumber? = some (.integer i) := by
  cases i with
  | ofNat n =>
    refine ⟨⟨false, digitsOf n, none, none⟩, ?_, ?_⟩
    · obtain ⟨c, cs, hc, hd⟩ := toDigits_head n
      rw [← readUnsigned?_toDigits false n hr, Printer.integer, Nat.toList_repr, hc]
      exact read?_of_digit hd
    · have hn : n ≤ greatest64 := Int.ofNat_le.1 hhigh
      simp [toNumber?, valueOf_digitsOf, hn]
  | negSucc n =>
    refine ⟨⟨true, digitsOf (n + 1), none, none⟩, ?_, ?_⟩
    · rw [← readUnsigned?_toDigits true (n + 1) hr, Printer.integer, Nat.toList_repr]
      rfl
    · have hn : n + 1 ≤ 9223372036854775808 := by omega
      have hg : n + 1 ≤ greatest64 := by simp only [greatest64]; omega
      simp [toNumber?, valueOf_digitsOf, hn, hg]
      omega

end Numeral

/-! ## Strings -/

namespace Parser

theorem hexDigit?_hexDigit : ∀ d < 16, hexDigit? (Printer.hexDigit d) = some d := by decide

theorem escaped_ne_nil (c : Char) : Printer.escaped c ≠ [] := by
  simp only [Printer.escaped]
  repeat' split
  all_goals simp

/-- The escape by code is read back. -/
theorem unicodeEscape?_hexDigits {c : Char} (hc : c.toNat < 0x20) (cs : List Char) :
    unicodeEscape? ('0' :: '0' :: Printer.hexDigit (c.toNat / 16) ::
      Printer.hexDigit (c.toNat % 16) :: cs) = some (c, cs) := by
  have h₁ := hexDigit?_hexDigit (c.toNat / 16) (by omega)
  have h₂ := hexDigit?_hexDigit (c.toNat % 16) (by omega)
  have h₀ : hexDigit? '0' = some 0 := rfl
  have hn : 0 * 4096 + 0 * 256 + c.toNat / 16 * 16 + c.toNat % 16 = c.toNat := by omega
  have h₄ : hex4? ('0' :: '0' :: Printer.hexDigit (c.toNat / 16) ::
      Printer.hexDigit (c.toNat % 16) :: cs) = some (c.toNat, cs) := by
    simp only [hex4?, h₀, h₁, h₂, Option.bind_eq_bind, Option.bind_some, hn]
  simp only [unicodeEscape?, h₄, Char.ofNat_toNat]
  rw [if_neg (by omega), if_neg (by omega)]

/-- An escaped character is read back before what follows it. -/
theorem stringBody_escaped (fuel : Nat) (c : Char) (cs : List Char) :
    stringBody (fuel + 1) (Printer.escaped c ++ cs) =
      (stringBody fuel cs).map fun (xs, after) => (c :: xs, after) := by
  have hcode (n : Nat) (h : c.toNat = n) : c = Char.ofNat n := by rw [← h, Char.ofNat_toNat]
  rw [Printer.escaped]
  split
  · subst_vars; rfl
  split
  · subst_vars; rfl
  split
  · rename_i hlow
    split
    · rw [hcode 8 ‹_›]; rfl
    split
    · rw [hcode 9 ‹_›]; rfl
    split
    · rw [hcode 10 ‹_›]; rfl
    split
    · rw [hcode 12 ‹_›]; rfl
    split
    · rw [hcode 13 ‹_›]; rfl
    · simp [stringBody, unicodeEscape?_hexDigits hlow]
  · rename_i hq hb hlow
    simp [stringBody, hq, hb, hlow]

/-- The characters of a printed string are read back up to the closing quote. -/
theorem stringBody_flatMap_escaped {fuel : Nat} {cs : List Char} (hf : cs.length < fuel) :
    stringBody fuel (cs.flatMap Printer.escaped ++ '"' :: rest) = some (cs, rest) := by
  induction cs generalizing fuel with
  | nil =>
    cases fuel with
    | zero => cases hf
    | succ fuel => rfl
  | cons c cs ih =>
    cases fuel with
    | zero => cases hf
    | succ fuel =>
      rw [List.flatMap_cons, List.append_assoc, stringBody_escaped,
        ih (Nat.lt_of_succ_lt_succ hf), Option.map_some]

theorem length_le_flatMap_escaped (cs : List Char) :
    cs.length ≤ (cs.flatMap Printer.escaped).length := by
  induction cs with
  | nil => exact Nat.le_refl _
  | cons c cs ih =>
    have hc := List.length_pos_iff.2 (escaped_ne_nil c)
    rw [List.flatMap_cons, List.length_append, List.length_cons]
    omega

/-- A printed string is read back after its opening quote. -/
theorem text_quoted (s : String) (rest : List Char) :
    text (s.toList.flatMap Printer.escaped ++ '"' :: rest) = some (s, rest) := by
  have hl := length_le_flatMap_escaped s.toList
  rw [text, stringBody_flatMap_escaped (by rw [List.length_append]; omega)]
  simp only [Option.map_some, String.ofList_toList]

end Parser

end TwoStepLogin.Json
