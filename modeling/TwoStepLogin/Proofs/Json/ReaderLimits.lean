import Mathlib.Data.List.DropRight
import TwoStepLogin.Proofs.Json.ParsedValues

/-!
# The reader's limits

A value that has been read is read in the same way with more fuel and where values may nest deeper,
and it can be passed over, up to the same place. So it does not matter to the text after a value how
the value was taken in, nor which of the reader's functions did it.

The proof goes through `Reading`: what one call of the reader sees is the same for every fuel and
every depth, only the parts of a container are read with what is left of both.

* `Json.Parser.Reading.value` — the converse of `value_reading`;
* `Json.Parser.Settled` — the reading of a value does not depend on limits;
* `Json.Parser.settled` — every value that is read is settled.
-/

set_option autoImplicit false

namespace TwoStepLogin.Json

variable {d fuel : Nat} {v : Json} {cs rest : List Char} {xs : List Json}
  {ms : List (String × Json)}

/-! ## The first character -/

namespace Numeral

theorem takeDigits_leads {c : Char} (hc : c.isDigit = false) : takeDigits (c :: cs) = ([], c :: cs) := by
  have hd : Decimal.digit? c = none := by
    rw [Decimal.digit?, if_neg]
    intro h
    rw [Char.isDigit_iff_toNat.2 h] at hc
    cases hc
  rw [takeDigits, hd]

/-- What is read as a number starts like one. -/
theorem read?_leads {numeral : Numeral} (h : read? cs = some (numeral, rest)) :
    ∃ c cs', cs = c :: cs' ∧ Leads c := by
  cases cs with
  | nil => cases h
  | cons c cs =>
    refine ⟨c, cs, rfl, ?_⟩
    by_contra hc
    obtain ⟨hminus, hdigit⟩ := not_or.1 hc
    rw [read?.eq_2 _ fun _ h => hminus (List.cons.inj h).1, readUnsigned?, takeWhole?,
      takeDigits_leads (by simpa using hdigit)] at h
    cases h

end Numeral

open Json.Parser

namespace Parser

/-- A value does not start with the end of an array. -/
theorem Reading.head (h : Reading fuel d cs v rest) :
    ∃ c cs', skipSpace cs = c :: cs' ∧ c ≠ ']' := by
  cases h with
  | string hstart _ => exact ⟨_, _, hstart, by decide⟩
  | noItems hstart _ => exact ⟨_, _, hstart, by decide⟩
  | items hstart _ => exact ⟨_, _, hstart, by decide⟩
  | noMembers hstart _ => exact ⟨_, _, hstart, by decide⟩
  | members hstart _ => exact ⟨_, _, hstart, by decide⟩
  | null hstart => exact ⟨_, _, hstart, by decide⟩
  | boolean b hstart => cases b <;> exact ⟨_, _, hstart, by decide⟩
  | number hread _ =>
    obtain ⟨c, cs', hcs, hc⟩ := Numeral.read?_leads hread
    exact ⟨c, cs', hcs, hc.ne (by decide) rfl⟩

/-- Nor do values in a row. -/
theorem items_head (h : items fuel d cs = some (xs, rest)) :
    ∃ c cs', skipSpace cs = c :: cs' ∧ c ≠ ']' := by
  cases fuel with
  | zero => cases h
  | succ fuel =>
    obtain ⟨x, after, hx, -⟩ := items_cases h
    cases fuel with
    | zero => cases hx
    | succ fuel => exact (value_reading hx).head

/-- Members in a row start with a name. -/
theorem members_head (h : members fuel d cs = some (ms, rest)) :
    ∃ cs', skipSpace cs = '"' :: cs' := by
  cases fuel with
  | zero => cases h
  | succ fuel =>
    obtain ⟨_, _, start, _, _, _, hstart, -⟩ := members_cases h
    exact ⟨start, hstart⟩

/-! ## Reading and passing over, clause by clause -/

theorem word?_append (w rest : List Char) : word? w (w ++ rest) = some rest := by
  rw [word?, if_pos (List.isPrefixOf_iff_prefix.2 (List.prefix_append w rest)), List.drop_left]

theorem skipSpace_skipSpace (cs : List Char) : skipSpace (skipSpace cs) = skipSpace cs :=
  List.dropWhile_idempotent _ _

/-- White space before a value is no matter to its reading. -/
theorem value_skipSpace (fuel d : Nat) (cs : List Char) :
    value fuel d (skipSpace cs) = value fuel d cs := by
  cases fuel with
  | zero => rfl
  | succ fuel => rw [value, value, skipSpace_skipSpace]

/-- A value is read as described. -/
theorem Reading.value (h : Reading fuel d cs v rest) : value (fuel + 1) d cs = some (v, rest) := by
  cases h with
  | string hstart htext => simp only [Parser.value, hstart, htext, Option.map_some]
  | noItems hstart hend => simp only [Parser.value, hstart, hend]
  | items hstart hxs =>
    obtain ⟨c, cs', hhead, hc⟩ := items_head hxs
    simp only [Parser.value, hstart, hhead, hxs, Option.map_some]
    split
    · rename_i h
      exact absurd (List.cons.inj h).1 hc
    · rfl
  | noMembers hstart hend => simp only [Parser.value, hstart, hend]
  | members hstart hms =>
    obtain ⟨cs', hhead⟩ := members_head hms
    simp only [Parser.value, hstart, hhead, hms, Option.map_some]
    rfl
  | null hstart =>
    rw [Parser.value, hstart]
    exact congrArg (Option.map _) (word?_append ['u', 'l', 'l'] rest)
  | boolean b hstart =>
    rw [Parser.value, hstart]
    cases b with
    | false => exact congrArg (Option.map _) (word?_append ['a', 'l', 's', 'e'] rest)
    | true => exact congrArg (Option.map _) (word?_append ['r', 'u', 'e'] rest)
  | number hread hnumber =>
    obtain ⟨c, cs', hcs, hc⟩ := Numeral.read?_leads hread
    rw [hcs] at hread
    rw [← value_skipSpace, hcs, value_of_leads hc hread, hnumber, Option.map_some]

/-- A number is passed over like it is read. -/
theorem skip_of_read? {numeral : Numeral} (h : Numeral.read? (skipSpace cs) = some (numeral, rest)) :
    skip (fuel + 1) cs = some rest := by
  obtain ⟨c, cs', hcs, hc⟩ := Numeral.read?_leads h
  rw [hcs] at h
  rw [skip, hcs]
  -- No other value starts with such a character.
  split
  all_goals try rw [h, Option.map_some]
  all_goals
    rename_i h
    cases h
    obtain h | h := hc <;> cases h

/-- The digits of an escape are looked at before their value is. -/
theorem skipString_unicode {n : Nat} (h : hex4? cs = some (n, rest)) :
    skipString ('\\' :: 'u' :: cs) = skipString rest := by
  rw [hex4?.eq_def] at h
  split at h
  · simp only [Option.bind_eq_bind, Option.bind_eq_some_iff] at h
    obtain ⟨_, ha, _, hb, _, hc, _, hd, h⟩ := h
    cases h
    simp [skipString, ha, hb, hc, hd]
  · cases h

theorem skipString_of_unicodeEscape? {c : Char} (h : unicodeEscape? cs = some (c, rest)) :
    skipString ('\\' :: 'u' :: cs) = skipString rest := by
  rw [unicodeEscape?] at h
  split at h
  · cases h
  rename_i hn
  rw [skipString_unicode hn]
  split at h
  · cases h
  split at h
  · split at h
    · split at h
      · rename_i hm
        split at h
        · simp only [Option.some.injEq, Prod.mk.injEq] at h
          obtain ⟨-, rfl⟩ := h
          exact skipString_unicode hm
        · cases h
      · cases h
    · cases h
  · cases h
    rfl

/-- A string that can be read is passed over up to the same place. -/
theorem skipString_of_stringBody {cs' : List Char} (h : stringBody fuel cs = some (cs', rest)) :
    skipString cs = some rest := by
  induction fuel generalizing cs cs' with
  | zero => cases h
  | succ fuel ih =>
    cases cs with
    | nil => cases h
    | cons c cs =>
      simp only [stringBody] at h
      split at h
      · rename_i hquote
        cases h
        rw [hquote, skipString]
      split at h
      · rename_i hbackslash
        subst hbackslash
        split at h
        · cases h
        rename_i e cs
        split at h
        · rename_i x after hx
          obtain ⟨⟨ys, end'⟩, hys, h⟩ := Option.map_eq_some_iff.1 h
          cases h
          split at hx
          · rename_i hu
            rw [hu, skipString_of_unicodeEscape? hx, ih hys]
          · rename_i hu
            obtain ⟨y, hy, hx⟩ := Option.map_eq_some_iff.1 hx
            cases hx
            simp [skipString, hu, hy, ih hys]
        · cases h
      split at h
      · cases h
      · rename_i hquote hbackslash hcontrol
        obtain ⟨⟨ys, end'⟩, hys, h⟩ := Option.map_eq_some_iff.1 h
        cases h
        simp [skipString, hbackslash, hcontrol, ih hys]

theorem skipString_of_text {s : String} (h : text cs = some (s, rest)) :
    skipString cs = some rest := by
  obtain ⟨⟨xs, after⟩, hxs, h⟩ := Option.map_eq_some_iff.1 h
  cases h
  exact skipString_of_stringBody hxs

/-! ## Limits -/

/-- A value is read in the same way where values may nest deeper, and it can be passed over, with any
fuel that exceeds twice the length of the text. -/
structure Settled (d : Nat) (v : Json) (cs rest : List Char) : Prop where
  read : ∀ d' fuel, d ≤ d' → 2 * cs.length < fuel → value fuel d' cs = some (v, rest)
  passed : ∀ fuel, 2 * cs.length < fuel → skip fuel cs = some rest

/-- The same for values in a row. -/
structure SettledItems (d : Nat) (xs : List Json) (cs rest : List Char) : Prop where
  read : ∀ d' fuel, d ≤ d' → 2 * cs.length + 1 < fuel → items fuel d' cs = some (xs, rest)
  passed : ∀ fuel, 2 * cs.length + 1 < fuel → skipItems fuel cs = some rest

/-- The same for members in a row. -/
structure SettledMembers (d : Nat) (ms : List (String × Json)) (cs rest : List Char) : Prop where
  read : ∀ d' fuel, d ≤ d' → 2 * cs.length + 1 < fuel → members fuel d' cs = some (ms, rest)
  passed : ∀ fuel, 2 * cs.length + 1 < fuel → skipMembers fuel cs = some rest

/-- Whatever is read with less fuel is settled. -/
def SettledBelow (fuel : Nat) : Prop :=
  ∀ k < fuel, ∀ d cs v rest, value k d cs = some (v, rest) → Settled d v cs rest

theorem SettledBelow.mono {fuel fuel' : Nat} (h : SettledBelow fuel) (hle : fuel' ≤ fuel) :
    SettledBelow fuel' :=
  fun k hk => h k (Nat.lt_of_lt_of_le hk hle)

theorem value_shrinks (h : value fuel d cs = some (v, rest)) : rest.length ≤ cs.length :=
  (takenBelow (fuel + 1) fuel (Nat.lt_succ_self fuel) d cs v rest h).shrinks

theorem items_settled (hbelow : SettledBelow fuel) (h : items fuel d cs = some (xs, rest)) :
    SettledItems d xs cs rest := by
  induction fuel generalizing cs xs with
  | zero => cases h
  | succ k ih =>
    obtain ⟨x, after, hvalue, hrest⟩ := items_cases h
    have hx := hbelow k (Nat.lt_succ_self k) _ _ _ _ hvalue
    have hshrinks := value_shrinks hvalue
    obtain ⟨hend, rfl⟩ | ⟨after', ys, hcomma, hys, rfl⟩ := hrest
    · constructor
      · intro d' fuel hd hf
        obtain ⟨fuel, rfl⟩ : ∃ n, fuel = n + 1 := ⟨fuel - 1, by omega⟩
        simp only [items, hx.read d' fuel hd (by omega), hend]
      · intro fuel hf
        obtain ⟨fuel, rfl⟩ : ∃ n, fuel = n + 1 := ⟨fuel - 1, by omega⟩
        simp only [skipItems, hx.passed fuel (by omega), hend]
    · have hys := ih (hbelow.mono (Nat.le_succ k)) hys
      have hroom := length_of_skipSpace hcomma
      constructor
      · intro d' fuel hd hf
        obtain ⟨fuel, rfl⟩ : ∃ n, fuel = n + 1 := ⟨fuel - 1, by omega⟩
        simp only [items, hx.read d' fuel hd (by omega), hcomma, hys.read d' fuel hd (by omega),
          Option.map_some]
      · intro fuel hf
        obtain ⟨fuel, rfl⟩ : ∃ n, fuel = n + 1 := ⟨fuel - 1, by omega⟩
        simp only [skipItems, hx.passed fuel (by omega), hcomma, hys.passed fuel (by omega)]

theorem members_settled (hbelow : SettledBelow fuel) (h : members fuel d cs = some (ms, rest)) :
    SettledMembers d ms cs rest := by
  induction fuel generalizing cs ms with
  | zero => cases h
  | succ k ih =>
    obtain ⟨name, x, start, colon, middle, after, hstart, hname, hmiddle, hvalue, hrest⟩ :=
      members_cases h
    have hx := hbelow k (Nat.lt_succ_self k) _ _ _ _ hvalue
    have hroom : middle.length + 1 ≤ cs.length := by
      have := length_of_skipSpace hstart
      have := text_room hname
      have := length_of_skipSpace hmiddle
      omega
    have hpass := skipString_of_text hname
    have hshrinks := value_shrinks hvalue
    obtain ⟨hend, rfl⟩ | ⟨after', ms', hcomma, hms, rfl⟩ := hrest
    · constructor
      · intro d' fuel hd hf
        obtain ⟨fuel, rfl⟩ : ∃ n, fuel = n + 1 := ⟨fuel - 1, by omega⟩
        simp only [members, hstart, hname, hmiddle, hx.read d' fuel hd (by omega), hend]
      · intro fuel hf
        obtain ⟨fuel, rfl⟩ : ∃ n, fuel = n + 1 := ⟨fuel - 1, by omega⟩
        simp only [skipMembers, hstart, hpass, hmiddle, hx.passed fuel (by omega), hend]
    · have hms := ih (hbelow.mono (Nat.le_succ k)) hms
      have hroom' := length_of_skipSpace hcomma
      constructor
      · intro d' fuel hd hf
        obtain ⟨fuel, rfl⟩ : ∃ n, fuel = n + 1 := ⟨fuel - 1, by omega⟩
        simp only [members, hstart, hname, hmiddle, hx.read d' fuel hd (by omega), hcomma,
          hms.read d' fuel hd (by omega), Option.map_some]
      · intro fuel hf
        obtain ⟨fuel, rfl⟩ : ∃ n, fuel = n + 1 := ⟨fuel - 1, by omega⟩
        simp only [skipMembers, hstart, hpass, hmiddle, hx.passed fuel (by omega), hcomma,
          hms.passed fuel (by omega)]

/-- The reading of a value holds with more fuel and where values may nest deeper. -/
theorem Reading.relax {d' n : Nat} (hbelow : SettledBelow fuel) (h : Reading fuel d cs v rest)
    (hd : d ≤ d') (hn : 2 * cs.length ≤ n) : Reading n d' cs v rest := by
  cases h with
  | string hstart htext => exact .string hstart htext
  | noItems hstart hend =>
    obtain ⟨d', rfl⟩ : ∃ k, d' = k + 1 := ⟨d' - 1, by omega⟩
    exact .noItems hstart hend
  | items hstart hxs =>
    obtain ⟨d', rfl⟩ : ∃ k, d' = k + 1 := ⟨d' - 1, by omega⟩
    have hroom := length_of_skipSpace hstart
    exact .items hstart ((items_settled hbelow hxs).read d' n (by omega) (by omega))
  | noMembers hstart hend =>
    obtain ⟨d', rfl⟩ : ∃ k, d' = k + 1 := ⟨d' - 1, by omega⟩
    exact .noMembers hstart hend
  | members hstart hms =>
    obtain ⟨d', rfl⟩ : ∃ k, d' = k + 1 := ⟨d' - 1, by omega⟩
    have hroom := length_of_skipSpace hstart
    exact .members hstart ((members_settled hbelow hms).read d' n (by omega) (by omega))
  | null hstart => exact .null hstart
  | boolean b hstart => exact .boolean b hstart
  | number hread hnumber => exact .number hread hnumber

/-- A value that is read can be passed over. -/
theorem Reading.passed {n : Nat} (hbelow : SettledBelow fuel) (h : Reading fuel d cs v rest)
    (hn : 2 * cs.length ≤ n) : skip (n + 1) cs = some rest := by
  cases h with
  | string hstart htext => simp only [skip, hstart, skipString_of_text htext]
  | noItems hstart hend => simp only [skip, hstart, hend]
  | items hstart hxs =>
    have hroom := length_of_skipSpace hstart
    obtain ⟨c, cs', hhead, hc⟩ := items_head hxs
    simp only [skip, hstart, hhead, (items_settled hbelow hxs).passed n (by omega)]
    split
    · rename_i h
      exact absurd (List.cons.inj h).1 hc
    · rfl
  | noMembers hstart hend => simp only [skip, hstart, hend]
  | members hstart hms =>
    have hroom := length_of_skipSpace hstart
    obtain ⟨cs', hhead⟩ := members_head hms
    simp only [skip, hstart, hhead, (members_settled hbelow hms).passed n (by omega)]
    rfl
  | null hstart =>
    rw [skip, hstart]
    exact word?_append ['u', 'l', 'l'] rest
  | boolean b hstart =>
    rw [skip, hstart]
    cases b with
    | false => exact word?_append ['a', 'l', 's', 'e'] rest
    | true => exact word?_append ['r', 'u', 'e'] rest
  | number hread _ => exact skip_of_read? hread

theorem Reading.settled (hbelow : SettledBelow fuel) (h : Reading fuel d cs v rest) :
    Settled d v cs rest := by
  constructor
  · intro d' n hd hn
    obtain ⟨n, rfl⟩ : ∃ k, n = k + 1 := ⟨n - 1, by omega⟩
    exact (h.relax hbelow hd (Nat.lt_succ_iff.1 hn)).value
  · intro n hn
    obtain ⟨n, rfl⟩ : ∃ k, n = k + 1 := ⟨n - 1, by omega⟩
    exact h.passed hbelow (Nat.lt_succ_iff.1 hn)

theorem settledBelow (fuel : Nat) : SettledBelow fuel := by
  induction fuel with
  | zero => exact fun _ hk => nomatch hk
  | succ fuel ih =>
    intro k hk d cs v rest h
    cases k with
    | zero => cases h
    | succ k => exact (value_reading h).settled (ih.mono (by omega))

/-- What is read as a value does not depend on the reader's limits. -/
theorem settled (h : value fuel d cs = some (v, rest)) : Settled d v cs rest :=
  settledBelow (fuel + 1) fuel (Nat.lt_succ_self fuel) d cs v rest h

end Parser

end TwoStepLogin.Json
