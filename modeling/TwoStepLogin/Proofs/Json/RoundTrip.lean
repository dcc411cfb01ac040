import TwoStepLogin.Proofs.Json.Tokens

/-!
# Compact text is read back

The reader takes the compact text of a value for that value, as long as the value's numbers are
whole, its members are sorted and it does not nest deeper than the reader admits. The printer knows
no such limits; the reader's fuel is no limit, since it exceeds what a text of its length can use.

* `Json.Fits` — the values in question, by how deep they may nest;
* `Json.ReadsBack` — what the reader makes of the text of a value inside a longer text;
* `Json.ReadsBack.items`, `Json.ReadsBack.members` — of values in a row;
* `Json.parse?_compact` — of a whole text.
-/

set_option autoImplicit false

namespace TwoStepLogin.Json

/-- Values of whole numbers of 64 bits, with members sorted by name, nesting at most so deep. -/
inductive Fits : Nat → Json → Prop where
  | null {d : Nat} : Fits d .null
  | boolean {d : Nat} (b : Bool) : Fits d (.boolean b)
  | integer {d : Nat} {i : Int} : -9223372036854775808 ≤ i → i ≤ 18446744073709551615 →
      Fits d (.number (.integer i))
  | string {d : Nat} (s : String) : Fits d (.string s)
  | array {d : Nat} {xs : List Json} : (∀ x ∈ xs, Fits d x) → Fits (d + 1) (.array xs)
  | object {d : Nat} {ms : List (String × Json)} : ms.Pairwise (fun m m' => m.1 < m'.1) →
      (∀ m ∈ ms, Fits d m.2) → Fits (d + 1) (.object ms)

variable {d fuel : Nat} {v : Json} {rest : List Char} {xs : List Json} {ms : List (String × Json)}

/-! ## Members -/

theorem Members.insert_of_forall_lt {name : String} (value : Json) (h : ∀ m ∈ ms, m.1 < name) :
    Members.insert name value ms = ms ++ [(name, value)] := by
  induction ms with
  | nil => rfl
  | cons m ms ih =>
    have hm : m.1 < name := h m List.mem_cons_self
    rw [Members.insert, if_neg fun he : name = m.1 => String.lt_irrefl _ (he ▸ hm),
      if_neg (String.lt_asymm hm), ih fun x hx => h x (List.mem_cons_of_mem _ hx),
      List.cons_append]

/-- Members that are sorted already keep their order. -/
theorem ofMembers_of_ascending (h : ms.Pairwise fun m m' => m.1 < m'.1) :
    ofMembers ms = .object ms := by
  suffices hs : ∀ sorted, (sorted ++ ms).Pairwise (fun m m' : String × Json => m.1 < m'.1) →
      ms.foldl (fun sorted m => Members.insert m.1 m.2 sorted) sorted = sorted ++ ms by
    rw [ofMembers, Members.ofList, hs [] h, List.nil_append]
  clear h
  induction ms with
  | nil => exact fun sorted _ => (List.append_nil sorted).symm
  | cons m ms ih =>
    intro sorted hs
    have hlt : ∀ x ∈ sorted, x.1 < m.1 := fun x hx =>
      (List.pairwise_append.1 hs).2.2 x hx m List.mem_cons_self
    rw [List.foldl_cons, Members.insert_of_forall_lt m.2 hlt, ih _ (by simpa using hs),
      List.append_assoc, List.singleton_append]

/-! ## Heads -/

open Printer
open Json.Parser

theorem isSpace_of_leads {c : Char} (hc : Numeral.Leads c) : isSpace c = false := by
  have h₁ : c ≠ ' ' := hc.ne (by decide) rfl
  have h₂ : c ≠ '\n' := hc.ne (by decide) rfl
  have h₃ : c ≠ '\t' := hc.ne (by decide) rfl
  have h₄ : c ≠ '\r' := hc.ne (by decide) rfl
  simp [isSpace, h₁, h₂, h₃, h₄]

theorem skipSpace_cons {c : Char} (hc : isSpace c = false) (cs : List Char) :
    skipSpace (c :: cs) = c :: cs :=
  List.dropWhile_cons_of_neg (by simp [hc])

/-- The text of a value starts neither with white space nor with the end of an array. -/
theorem Fits.render_head (hv : Fits d v) :
    ∃ c cs, render v = c :: cs ∧ isSpace c = false ∧ c ≠ ']' := by
  cases hv with
  | null => exact ⟨_, _, rfl, rfl, by decide⟩
  | boolean b => cases b <;> exact ⟨_, _, rfl, rfl, by decide⟩
  | @integer _ i _ _ =>
    obtain ⟨c, cs, hi, hc⟩ := Numeral.integer_head i
    exact ⟨c, cs, by rw [render, Printer.number, hi], isSpace_of_leads hc, hc.ne (by decide) rfl⟩
  | string s => exact ⟨_, _, rfl, rfl, by decide⟩
  | array _ => exact ⟨_, _, rfl, rfl, by decide⟩
  | object _ _ => exact ⟨_, _, rfl, rfl, by decide⟩

/-- Nor does the text of values in a row. -/
theorem renderItems_head {x : Json} (hx : Fits d x) (xs : List Json) :
    ∃ c cs, renderItems (x :: xs) = c :: cs ∧ isSpace c = false ∧ c ≠ ']' := by
  obtain ⟨c, cs, h, hc⟩ := hx.render_head
  cases xs with
  | nil => exact ⟨c, cs, by rw [renderItems, h], hc⟩
  | cons y ys => exact ⟨c, _, by rw [renderItems, h, List.cons_append], hc⟩

/-- The text of members in a row starts with a name. -/
theorem renderMembers_head (name : String) (x : Json) (ms : List (String × Json)) :
    ∃ cs, renderMembers ((name, x) :: ms) = '"' :: cs := by
  cases ms with
  | nil => exact ⟨_, rfl⟩
  | cons m ms => exact ⟨_, rfl⟩

/-- A text that starts like a number is read as a number. -/
theorem value_of_leads {c : Char} {cs : List Char} {numeral : Numeral} (hc : Numeral.Leads c)
    (hread : Numeral.read? (c :: cs) = some (numeral, rest)) :
    value (fuel + 1) d (c :: cs) = numeral.toNumber?.map fun n => (.number n, rest) := by
  rw [value, skipSpace_cons (isSpace_of_leads hc)]
  -- No other value starts with such a character.
  split
  all_goals try rw [hread]
  all_goals
    rename_i h
    cases h
    obtain h | h := hc <;> cases h

/-! ## Reading back -/

/-- Given enough fuel, the text of the value is read as the value, up to where it ends. -/
def ReadsBack (d : Nat) (v : Json) : Prop :=
  ∀ fuel rest, Delimited rest → 2 * (render v).length ≤ fuel →
    value fuel d (render v ++ rest) = some (v, rest)

/-- Values in a row, up to the closing bracket. -/
theorem ReadsBack.items (hxs : ∀ x ∈ xs, ReadsBack d x) (hne : xs ≠ [])
    (hf : 2 * (renderItems xs).length + 1 ≤ fuel) :
    Parser.items fuel d (renderItems xs ++ ']' :: rest) = some (xs, rest) := by
  induction xs generalizing fuel with
  | nil => exact absurd rfl hne
  | cons x xs ih =>
    obtain ⟨fuel, rfl⟩ : ∃ k, fuel = k + 1 := ⟨fuel - 1, by omega⟩
    have hx := hxs x List.mem_cons_self
    cases xs with
    | nil =>
      rw [renderItems] at hf ⊢
      rw [Parser.items, hx fuel _ (delimited_bracket rest) (by omega)]
      rfl
    | cons y ys =>
      rw [renderItems, List.length_append, List.length_cons] at hf
      have hys : Parser.items fuel d (renderItems (y :: ys) ++ ']' :: rest) = some (y :: ys, rest) :=
        ih (fun z hz => hxs z (List.mem_cons_of_mem _ hz)) (by simp) (by omega)
      rw [renderItems, List.append_assoc, List.cons_append, Parser.items,
        hx fuel _ (delimited_comma _) (by omega)]
      simp only [skipSpace_cons (c := ',') rfl, hys, Option.map_some]

/-- The last member, by its name and its value. -/
theorem members_last {name : String} {cs : List Char} (hx : value fuel d cs = some (v, '}' :: rest)) :
    Parser.members (fuel + 1) d (quoted name ++ ':' :: cs) = some ([(name, v)], rest) := by
  rw [Parser.members, quoted, List.cons_append, List.cons_append, List.append_assoc,
    List.singleton_append, skipSpace_cons (c := '"') rfl]
  simp only [text_quoted, skipSpace_cons (c := ':') rfl, hx, skipSpace_cons (c := '}') rfl]

/-- Any other member, by its name and its value. -/
theorem members_next {name : String} {cs : List Char} (hx : value fuel d cs = some (v, ',' :: rest)) :
    Parser.members (fuel + 1) d (quoted name ++ ':' :: cs) =
      (Parser.members fuel d rest).map fun (ms, after) => ((name, v) :: ms, after) := by
  rw [Parser.members, quoted, List.cons_append, List.cons_append, List.append_assoc,
    List.singleton_append, skipSpace_cons (c := '"') rfl]
  simp only [text_quoted, skipSpace_cons (c := ':') rfl, hx, skipSpace_cons (c := ',') rfl]

/-- Members in a row, up to the closing brace. -/
theorem ReadsBack.members (hms : ∀ m ∈ ms, ReadsBack d m.2) (hne : ms ≠ [])
    (hf : 2 * (renderMembers ms).length + 1 ≤ fuel) :
    Parser.members fuel d (renderMembers ms ++ '}' :: rest) = some (ms, rest) := by
  induction ms generalizing fuel with
  | nil => exact absurd rfl hne
  | cons m ms ih =>
    obtain ⟨fuel, rfl⟩ : ∃ k, fuel = k + 1 := ⟨fuel - 1, by omega⟩
    obtain ⟨name, x⟩ := m
    have hx : ReadsBack d x := hms (name, x) List.mem_cons_self
    cases ms with
    | nil =>
      rw [renderMembers, List.length_append, List.length_cons] at hf
      rw [renderMembers, List.append_assoc, List.cons_append]
      exact members_last (hx fuel _ (delimited_brace rest) (by omega))
    | cons m ms =>
      simp only [renderMembers, List.length_append, List.length_cons] at hf
      have hys : Parser.members fuel d (renderMembers (m :: ms) ++ '}' :: rest) =
          some (m :: ms, rest) :=
        ih (fun z hz => hms z (List.mem_cons_of_mem _ hz)) (by simp) (by omega)
      rw [renderMembers, List.append_assoc, List.append_assoc, List.cons_append, List.cons_append,
        members_next (hx fuel _ (delimited_comma _) (by omega)), hys, Option.map_some]

/-- An array that does not end at once is read value by value. -/
theorem value_bracket {c : Char} (hs : isSpace c = false) (hc : c ≠ ']') (cs : List Char) :
    value (fuel + 1) (d + 1) ('[' :: c :: cs) =
      (Parser.items fuel d (c :: cs)).map fun (xs, after) => (.array xs, after) := by
  rw [value, skipSpace_cons (c := '[') rfl]
  simp only [skipSpace_cons hs]
  split
  · rename_i h
    cases h
    exact absurd rfl hc
  · rfl

/-- An object that does not end at once is read member by member. -/
theorem value_brace (cs : List Char) :
    value (fuel + 1) (d + 1) ('{' :: '"' :: cs) =
      (Parser.members fuel d ('"' :: cs)).map fun (ms, after) => (ofMembers ms, after) := by
  rw [value, skipSpace_cons (c := '{') rfl]
  rfl

theorem Fits.readsBack_of_succ (hv : Fits d v)
    (h : ∀ fuel rest, Delimited rest → 2 * (render v).length ≤ fuel + 1 →
      value (fuel + 1) d (render v ++ rest) = some (v, rest)) : ReadsBack d v := by
  intro fuel rest hr hf
  obtain ⟨c, cs, hc, -⟩ := hv.render_head
  have hl : (render v).length = cs.length + 1 := by rw [hc, List.length_cons]
  obtain ⟨fuel, rfl⟩ : ∃ k, fuel = k + 1 := ⟨fuel - 1, by omega⟩
  exact h fuel rest hr hf

/-- The reader takes the text of a value for that value. -/
theorem Fits.readsBack (hv : Fits d v) : ReadsBack d v := by
  induction hv with
  | null => exact Fits.null.readsBack_of_succ fun _ _ _ _ => rfl
  | boolean b => cases b <;> exact (Fits.boolean _).readsBack_of_succ fun _ _ _ _ => rfl
  | @integer d i hlow hhigh =>
    refine (Fits.integer hlow hhigh).readsBack_of_succ fun fuel rest hr _ => ?_
    obtain ⟨c, cs, hi, hc⟩ := Numeral.integer_head i
    obtain ⟨numeral, hread, hnum⟩ := Numeral.read?_integer hlow hhigh hr
    rw [hi, List.cons_append] at hread
    rw [render, Printer.number, hi, List.cons_append, value_of_leads hc hread, hnum, Option.map_some]
  | string s =>
    refine (Fits.string s).readsBack_of_succ fun fuel rest _ _ => ?_
    rw [render, quoted, List.cons_append, List.cons_append, List.append_assoc, List.singleton_append,
      value, skipSpace_cons (c := '"') rfl]
    simp only [text_quoted, Option.map_some]
  | @array d xs hxs ih =>
    refine (Fits.array hxs).readsBack_of_succ fun fuel rest _ hf => ?_
    cases xs with
    | nil => rfl
    | cons x xs =>
      rw [render, List.cons_append, List.length_cons, List.length_append, List.length_singleton] at hf
      have hitems : Parser.items fuel d (renderItems (x :: xs) ++ ']' :: rest) =
          some (x :: xs, rest) := ReadsBack.items ih (by simp) (by omega)
      obtain ⟨c, cs, hhead, hs, hc⟩ := renderItems_head (hxs x List.mem_cons_self) xs
      rw [hhead, List.cons_append] at hitems
      rw [render, List.cons_append, List.cons_append, List.append_assoc, List.singleton_append, hhead,
        List.cons_append, value_bracket hs hc, hitems, Option.map_some]
  | @object d ms hs hms ih =>
    refine (Fits.object hs hms).readsBack_of_succ fun fuel rest _ hf => ?_
    cases ms with
    | nil => rfl
    | cons m ms =>
      rw [render, List.cons_append, List.length_cons, List.length_append, List.length_singleton] at hf
      have hmembers : Parser.members fuel d (renderMembers (m :: ms) ++ '}' :: rest) =
          some (m :: ms, rest) := ReadsBack.members ih (by simp) (by omega)
      obtain ⟨cs, hhead⟩ := renderMembers_head m.1 m.2 ms
      rw [hhead, List.cons_append] at hmembers
      rw [render, List.cons_append, List.cons_append, List.append_assoc, List.singleton_append, hhead,
        List.cons_append, value_brace, hmembers]
      simp only [Option.map_some, ofMembers_of_ascending hs]

/-- The compact text of a value is parsed as the value. -/
theorem parse?_compact (hv : Fits depthLimit v) : parse? v.compact = some v := by
  have h := hv.readsBack (fuelFor (render v)) [] trivial (by rw [fuelFor]; omega)
  rw [List.append_nil] at h
  rw [parse?, compact, String.toList_ofList, parseChars?, h]
  rfl

end TwoStepLogin.Json
