import Mathlib.Data.List.Perm.Subperm
import TwoStepLogin.Proofs.Json.RoundTrip
import TwoStepLogin.Proofs.Json.TokenRoom

/-!
# What can be parsed can be stored

Every value that is read from a text and whose numbers are whole is one of those whose compact text
is read back. So nothing that is accepted nests too deep or holds a character that the printer would
lose; and the compact text of a value is the shortest of all texts of that value.

The reader is followed clause by clause. What is kept of an object depends on names that come later,
so its members are measured before they are sorted: those kept are some of those read.

* `Json.Whole` — all numbers of a value are whole;
* `Json.Members.ofList_subperm`, `Json.Members.ofList_ascending` — sorting members;
* `Json.Parser.Reading` — how a value is read; `Json.Parser.Taken` — what is known of it then;
* `Json.parse?_fits`, `Json.length_compact_le` — of a whole text.
-/

set_option autoImplicit false

namespace TwoStepLogin.Json

/-- Values all of whose numbers are whole. -/
inductive Whole : Json → Prop where
  | null : Whole .null
  | boolean (b : Bool) : Whole (.boolean b)
  | integer (i : Int) : Whole (.number (.integer i))
  | string (s : String) : Whole (.string s)
  | array {xs : List Json} : (∀ x ∈ xs, Whole x) → Whole (.array xs)
  | object {ms : List (String × Json)} : (∀ m ∈ ms, Whole m.2) → Whole (.object ms)

variable {d fuel : Nat} {v : Json} {cs rest : List Char} {xs : List Json}
  {ms : List (String × Json)}

/-! ## Sorted members -/

namespace Members

/-- A member that is put in its place adds itself and may replace another one. -/
theorem insert_subperm (name : String) (value : Json) (ms : List (String × Json)) :
    (insert name value ms).Subperm ((name, value) :: ms) := by
  induction ms with
  | nil => exact List.Subperm.refl _
  | cons m ms ih =>
    obtain ⟨other, old⟩ := m
    rw [insert]
    split
    · exact (List.subperm_cons _).2 List.Subperm.cons_self
    split
    · exact List.Subperm.refl _
    · exact ((List.subperm_cons (other, old)).2 ih).trans (List.Perm.swap _ _ _).subperm

/-- Sorting keeps some of the members and adds none. -/
theorem ofList_subperm (ms : List (String × Json)) : (ofList ms).Subperm ms := by
  suffices h : ∀ sorted, (ms.foldl (fun sorted m => insert m.1 m.2 sorted) sorted).Subperm
      (sorted ++ ms) from h []
  induction ms with
  | nil => exact fun sorted => by rw [List.append_nil]; exact List.Subperm.refl _
  | cons m ms ih =>
    intro sorted
    have hm : (insert m.1 m.2 sorted ++ ms).Subperm ((m :: sorted) ++ ms) :=
      (List.subperm_append_right ms).2 (insert_subperm m.1 m.2 sorted)
    exact ((ih _).trans hm).trans List.perm_middle.symm.subperm

theorem insert_ascending (name : String) (value : Json)
    (h : ms.Pairwise fun m m' => m.1 < m'.1) :
    (insert name value ms).Pairwise fun m m' => m.1 < m'.1 := by
  induction ms with
  | nil => exact List.pairwise_singleton _ _
  | cons m ms ih =>
    obtain ⟨other, old⟩ := m
    obtain ⟨hhead, htail⟩ := List.pairwise_cons.1 h
    rw [insert]
    split
    · rename_i he
      exact List.pairwise_cons.2 ⟨fun x hx => he ▸ hhead x hx, htail⟩
    split
    · rename_i hlt
      refine List.pairwise_cons.2 ⟨fun x hx => ?_, h⟩
      obtain rfl | hx := List.mem_cons.1 hx
      · exact hlt
      · exact String.lt_trans hlt (hhead x hx)
    · rename_i hne hge
      have hlt : other < name := by
        by_contra hle
        exact hne (String.le_antisymm (String.not_lt.1 hle) (String.not_lt.1 hge))
      refine List.pairwise_cons.2 ⟨fun x hx => ?_, ih htail⟩
      obtain rfl | hx := List.mem_cons.1 ((insert_subperm name value ms).subset hx)
      · exact hlt
      · exact hhead x hx

/-- Sorted members are in the order of their names, and no name repeats. -/
theorem ofList_ascending (ms : List (String × Json)) :
    (ofList ms).Pairwise fun m m' => m.1 < m'.1 := by
  suffices h : ∀ sorted : List (String × Json), sorted.Pairwise (fun m m' => m.1 < m'.1) →
      (ms.foldl (fun sorted m => insert m.1 m.2 sorted) sorted).Pairwise fun m m' => m.1 < m'.1 from
    h [] List.Pairwise.nil
  induction ms with
  | nil => exact fun _ h => h
  | cons m ms ih => exact fun sorted h => ih _ (insert_ascending m.1 m.2 h)

end Members

/-! ## The room of rows -/

open Printer
open Json.Parser

/-- Values in a row with a comma behind each. -/
def itemsText (xs : List Json) : List Char := xs.flatMap fun x => render x ++ [',']

/-- Members in a row with a comma behind each. -/
def membersText (ms : List (String × Json)) : List Char :=
  ms.flatMap fun m => quoted m.1 ++ ':' :: (render m.2 ++ [','])

theorem renderItems_comma (x : Json) (xs : List Json) :
    renderItems (x :: xs) ++ [','] = itemsText (x :: xs) := by
  induction xs generalizing x with
  | nil => simp [renderItems, itemsText]
  | cons y ys ih =>
    rw [renderItems, List.append_assoc, List.cons_append, ih y]
    simp [itemsText]

theorem renderMembers_comma (m : String × Json) (ms : List (String × Json)) :
    renderMembers (m :: ms) ++ [','] = membersText (m :: ms) := by
  induction ms generalizing m with
  | nil => simp [renderMembers, membersText]
  | cons m' ms ih =>
    rw [renderMembers, List.append_assoc, List.append_assoc, List.cons_append, List.cons_append,
      ih m']
    simp [membersText]

theorem length_membersText_perm {kept : List (String × Json)} (h : kept.Perm ms) :
    (membersText kept).length = (membersText ms).length :=
  (h.flatMap_right _).length_eq

/-! ## Following the reader -/

namespace Parser

/-- How a value is read from a text: what it is, and what its parts are read from. -/
inductive Reading (fuel : Nat) : Nat → List Char → Json → List Char → Prop where
  | string {d : Nat} {cs after rest : List Char} {s : String} : skipSpace cs = '"' :: after →
      text after = some (s, rest) → Reading fuel d cs (.string s) rest
  | noItems {d : Nat} {cs after rest : List Char} : skipSpace cs = '[' :: after →
      skipSpace after = ']' :: rest → Reading fuel (d + 1) cs (.array []) rest
  | items {d : Nat} {cs after rest : List Char} {xs : List Json} : skipSpace cs = '[' :: after →
      items fuel d after = some (xs, rest) → Reading fuel (d + 1) cs (.array xs) rest
  | noMembers {d : Nat} {cs after rest : List Char} : skipSpace cs = '{' :: after →
      skipSpace after = '}' :: rest → Reading fuel (d + 1) cs (.object []) rest
  | members {d : Nat} {cs after rest : List Char} {ms : List (String × Json)} :
      skipSpace cs = '{' :: after → members fuel d after = some (ms, rest) →
      Reading fuel (d + 1) cs (ofMembers ms) rest
  | null {d : Nat} {cs rest : List Char} : skipSpace cs = render .null ++ rest →
      Reading fuel d cs .null rest
  | boolean {d : Nat} {cs rest : List Char} (b : Bool) :
      skipSpace cs = render (.boolean b) ++ rest → Reading fuel d cs (.boolean b) rest
  | number {d : Nat} {cs rest : List Char} {numeral : Numeral} {n : Number} :
      Numeral.read? (skipSpace cs) = some (numeral, rest) → numeral.toNumber? = some n →
      Reading fuel d cs (.number n) rest

theorem value_reading (h : value (fuel + 1) d cs = some (v, rest)) : Reading fuel d cs v rest := by
  rw [value] at h
  split at h
  · rename_i after hcs
    obtain ⟨⟨s, end'⟩, hs, h⟩ := Option.map_eq_some_iff.1 h
    cases h
    exact .string hcs hs
  · rename_i after hcs
    split at h
    · cases h
    split at h
    · rename_i hend
      cases h
      exact .noItems hcs hend
    · obtain ⟨⟨xs, end'⟩, hxs, h⟩ := Option.map_eq_some_iff.1 h
      cases h
      exact .items hcs hxs
  · rename_i after hcs
    split at h
    · cases h
    split at h
    · rename_i hend
      cases h
      exact .noMembers hcs hend
    · obtain ⟨⟨ms, end'⟩, hms, h⟩ := Option.map_eq_some_iff.1 h
      cases h
      exact .members hcs hms
  · rename_i after hcs
    obtain ⟨end', hw, h⟩ := Option.map_eq_some_iff.1 h
    cases h
    exact .null (by rw [hcs, word?_eq hw]; rfl)
  · rename_i after hcs
    obtain ⟨end', hw, h⟩ := Option.map_eq_some_iff.1 h
    cases h
    exact .boolean true (by rw [hcs, word?_eq hw]; rfl)
  · rename_i after hcs
    obtain ⟨end', hw, h⟩ := Option.map_eq_some_iff.1 h
    cases h
    exact .boolean false (by rw [hcs, word?_eq hw]; rfl)
  · split at h
    · rename_i hread
      obtain ⟨n, hn, h⟩ := Option.map_eq_some_iff.1 h
      cases h
      exact .number hread hn
    · cases h

/-- What follows a part of a row: the end, or a comma and the rest of the row. -/
theorem items_cases {fuel : Nat} (h : items (fuel + 1) d cs = some (xs, rest)) :
    ∃ x after, value fuel d cs = some (x, after) ∧
      (skipSpace after = ']' :: rest ∧ xs = [x] ∨
        ∃ after' ys, skipSpace after = ',' :: after' ∧ items fuel d after' = some (ys, rest) ∧
          xs = x :: ys) := by
  rw [items] at h
  split at h
  · cases h
  rename_i x after hx
  split at h
  · rename_i hend
    cases h
    exact ⟨x, after, hx, .inl ⟨hend, rfl⟩⟩
  · rename_i after' hcomma
    obtain ⟨⟨ys, end'⟩, hys, h⟩ := Option.map_eq_some_iff.1 h
    cases h
    exact ⟨x, after, hx, .inr ⟨after', ys, hcomma, hys, rfl⟩⟩
  · cases h

/-- The same for members. -/
theorem members_cases {fuel : Nat} (h : members (fuel + 1) d cs = some (ms, rest)) :
    ∃ name x start colon middle after, skipSpace cs = '"' :: start ∧
      text start = some (name, colon) ∧ skipSpace colon = ':' :: middle ∧
      value fuel d middle = some (x, after) ∧
      (skipSpace after = '}' :: rest ∧ ms = [(name, x)] ∨
        ∃ after' ms', skipSpace after = ',' :: after' ∧ members fuel d after' = some (ms', rest) ∧
          ms = (name, x) :: ms') := by
  rw [members] at h
  split at h
  · rename_i start hstart
    split at h
    · cases h
    rename_i name colon hname
    split at h
    · rename_i middle hmiddle
      split at h
      · cases h
      rename_i x after hx
      refine ⟨name, x, start, colon, middle, after, hstart, hname, hmiddle, hx, ?_⟩
      split at h
      · rename_i hend
        cases h
        exact .inl ⟨hend, rfl⟩
      · rename_i after' hcomma
        obtain ⟨⟨ms', end'⟩, hms, h⟩ := Option.map_eq_some_iff.1 h
        cases h
        exact .inr ⟨after', ms', hcomma, hms, rfl⟩
      · cases h
    · cases h
  · cases h

/-- A value taken from the head of a text leaves no longer text; and if its numbers are whole, it is
one that is read back and its compact text is no longer than what was taken. -/
structure Taken (d : Nat) (v : Json) (cs rest : List Char) : Prop where
  shrinks : rest.length ≤ cs.length
  fits : v.Whole → Fits d v
  room : v.Whole → (render v).length + rest.length ≤ cs.length

/-- The same for values in a row, each with a comma or the closing bracket. -/
structure TakenItems (d : Nat) (xs : List Json) (cs rest : List Char) : Prop where
  shrinks : rest.length ≤ cs.length
  fits : (∀ x ∈ xs, Whole x) → ∀ x ∈ xs, Fits d x
  room : (∀ x ∈ xs, Whole x) → (itemsText xs).length + rest.length ≤ cs.length

/-- The same for members in a row, whichever of them are kept. -/
structure TakenMembers (d : Nat) (ms : List (String × Json)) (cs rest : List Char) : Prop where
  shrinks : rest.length ≤ cs.length
  fits : ∀ m ∈ ms, Whole m.2 → Fits d m.2
  room : ∀ kept : List (String × Json), kept.Sublist ms → (∀ m ∈ kept, Whole m.2) →
    (membersText kept).length + rest.length ≤ cs.length

theorem TakenItems.nil (rest : List Char) : TakenItems d [] rest rest :=
  ⟨Nat.le_refl _, fun _ _ hx => (nomatch hx), fun _ => by simp [itemsText]⟩

theorem TakenItems.cons {after after' : List Char} (hv : Taken d v cs after)
    (hcomma : after'.length + 1 ≤ after.length) (hxs : TakenItems d xs after' rest) :
    TakenItems d (v :: xs) cs rest where
  shrinks := by
    have := hv.shrinks
    have := hxs.shrinks
    omega
  fits hw := by
    obtain ⟨hwv, hwxs⟩ := List.forall_mem_cons.1 hw
    exact List.forall_mem_cons.2 ⟨hv.fits hwv, hxs.fits hwxs⟩
  room hw := by
    obtain ⟨hwv, hwxs⟩ := List.forall_mem_cons.1 hw
    have hroom := hv.room hwv
    have hrooms := hxs.room hwxs
    simp only [itemsText, List.flatMap_cons, List.length_append, List.length_cons,
      List.length_nil] at hrooms ⊢
    omega

theorem TakenMembers.nil (rest : List Char) : TakenMembers d [] rest rest where
  shrinks := Nat.le_refl _
  fits _ hm := nomatch hm
  room kept hkept _ := by
    rw [List.sublist_nil.1 hkept]
    simp [membersText]

theorem TakenMembers.cons {name : String} {middle after after' : List Char}
    (hname : (quoted name).length + 1 + middle.length ≤ cs.length) (hv : Taken d v middle after)
    (hcomma : after'.length + 1 ≤ after.length) (hms : TakenMembers d ms after' rest) :
    TakenMembers d ((name, v) :: ms) cs rest where
  shrinks := by
    have := hv.shrinks
    have := hms.shrinks
    omega
  fits := List.forall_mem_cons.2 ⟨hv.fits, hms.fits⟩
  room kept hkept hw := by
    cases hkept with
    | cons _ hkept =>
      have hrooms := hms.room kept hkept hw
      have := hv.shrinks
      omega
    | @cons_cons kept _ _ hkept =>
      obtain ⟨hwv, hwkept⟩ := List.forall_mem_cons.1 hw
      have hroom := hv.room hwv
      have hrooms := hms.room kept hkept hwkept
      simp only [membersText, List.flatMap_cons, List.length_append, List.length_cons,
        List.length_nil] at hrooms ⊢
      omega

/-- Whatever is read with less fuel is taken as it should be. -/
def TakenBelow (fuel : Nat) : Prop :=
  ∀ k < fuel, ∀ d cs v rest, value k d cs = some (v, rest) → Taken d v cs rest

theorem TakenBelow.mono {fuel fuel' : Nat} (h : TakenBelow fuel) (hle : fuel' ≤ fuel) :
    TakenBelow fuel' :=
  fun k hk => h k (Nat.lt_of_lt_of_le hk hle)

theorem items_taken (hbelow : TakenBelow fuel) (h : items fuel d cs = some (xs, rest)) :
    xs ≠ [] ∧ TakenItems d xs cs rest := by
  induction fuel generalizing cs xs with
  | zero => cases h
  | succ fuel ih =>
    obtain ⟨x, after, hx, hrest⟩ := items_cases h
    have hx := hbelow fuel (Nat.lt_succ_self fuel) _ _ _ _ hx
    obtain ⟨hend, rfl⟩ | ⟨after', ys, hcomma, hys, rfl⟩ := hrest
    · exact ⟨by simp, .cons hx (length_of_skipSpace hend) (.nil rest)⟩
    · have hys := ih (hbelow.mono (Nat.le_succ fuel)) hys
      exact ⟨by simp, .cons hx (length_of_skipSpace hcomma) hys.2⟩

theorem members_taken (hbelow : TakenBelow fuel) (h : members fuel d cs = some (ms, rest)) :
    rest.length < cs.length ∧ TakenMembers d ms cs rest := by
  induction fuel generalizing cs ms with
  | zero => cases h
  | succ fuel ih =>
    obtain ⟨name, x, start, colon, middle, after, hstart, hname, hmiddle, hx, hrest⟩ :=
      members_cases h
    have hx := hbelow fuel (Nat.lt_succ_self fuel) _ _ _ _ hx
    have hroom : (quoted name).length + 1 + middle.length ≤ cs.length := by
      have := length_of_skipSpace hstart
      have := text_room hname
      have := length_of_skipSpace hmiddle
      omega
    have hshrinks := hx.shrinks
    obtain ⟨hend, rfl⟩ | ⟨after', ms', hcomma, hms, rfl⟩ := hrest
    · have hend := length_of_skipSpace hend
      exact ⟨by omega, .cons hroom hx hend (.nil rest)⟩
    · obtain ⟨hlt, hms⟩ := ih (hbelow.mono (Nat.le_succ fuel)) hms
      have hcomma := length_of_skipSpace hcomma
      exact ⟨by omega, .cons hroom hx hcomma hms⟩

/-- Values in brackets. -/
theorem TakenItems.array {after : List Char} (hne : xs ≠ []) (hxs : TakenItems d xs after rest)
    (hstart : after.length + 1 ≤ cs.length) : Taken (d + 1) (.array xs) cs rest where
  shrinks := by
    have := hxs.shrinks
    omega
  fits hw := by
    cases hw with
    | array hw => exact .array (hxs.fits hw)
  room hw := by
    cases hw with
    | array hw =>
      have hroom := hxs.room hw
      obtain ⟨x, xs, rfl⟩ := List.exists_cons_of_ne_nil hne
      rw [← renderItems_comma] at hroom
      simp only [render, List.length_append, List.length_cons, List.length_nil] at hroom ⊢
      omega

/-- Members in braces, sorted and the last of each name kept. -/
theorem TakenMembers.object {after : List Char} (hlt : rest.length < after.length)
    (hms : TakenMembers d ms after rest) (hstart : after.length + 1 ≤ cs.length) :
    Taken (d + 1) (ofMembers ms) cs rest where
  shrinks := by
    have := hms.shrinks
    omega
  fits hw := by
    cases hw with
    | object hw =>
      have hsub := (Members.ofList_subperm ms).subset
      exact .object (Members.ofList_ascending ms) fun m hm => hms.fits m (hsub hm) (hw m hm)
  room hw := by
    cases hw with
    | object hw =>
      obtain ⟨kept, hperm, hsub⟩ := Members.ofList_subperm ms
      have hroom := hms.room kept hsub fun m hm => hw m (hperm.mem_iff.1 hm)
      rw [length_membersText_perm hperm] at hroom
      rw [ofMembers]
      cases hsorted : Members.ofList ms with
      | nil =>
        simp only [render, renderMembers, List.length_append, List.length_cons, List.length_nil]
        omega
      | cons m ms' =>
        rw [hsorted, ← renderMembers_comma] at hroom
        simp only [render, List.length_append, List.length_cons, List.length_nil] at hroom ⊢
        omega

/-- A value that is read is taken from the text as it should be. -/
theorem Reading.taken (hbelow : TakenBelow (fuel + 1)) (h : Reading fuel d cs v rest) :
    Taken d v cs rest := by
  cases h with
  | @string _ _ after _ s hstart htext =>
    have hstart := length_of_skipSpace hstart
    have hroom := text_room htext
    have hquotes : 2 ≤ (quoted s).length := by simp [quoted]
    exact ⟨by omega, fun _ => .string s, fun _ => by rw [render]; omega⟩
  | noItems hstart hend =>
    have hstart := length_of_skipSpace hstart
    have hend := length_of_skipSpace hend
    refine ⟨by omega, fun _ => .array fun _ hx => absurd hx List.not_mem_nil, fun _ => ?_⟩
    simp only [render, renderItems, List.length_append, List.length_cons, List.length_nil]
    omega
  | items hstart hxs =>
    obtain ⟨hne, hxs⟩ := items_taken (hbelow.mono (Nat.le_succ fuel)) hxs
    exact hxs.array hne (length_of_skipSpace hstart)
  | noMembers hstart hend =>
    have hstart := length_of_skipSpace hstart
    have hend := length_of_skipSpace hend
    refine ⟨by omega, fun _ => .object List.Pairwise.nil fun _ hx => absurd hx List.not_mem_nil,
      fun _ => ?_⟩
    simp only [render, renderMembers, List.length_append, List.length_cons, List.length_nil]
    omega
  | members hstart hms =>
    obtain ⟨hlt, hms⟩ := members_taken (hbelow.mono (Nat.le_succ fuel)) hms
    exact hms.object hlt (length_of_skipSpace hstart)
  | null hstart =>
    have hspace := length_skipSpace_le cs
    rw [hstart, List.length_append] at hspace
    exact ⟨by omega, fun _ => .null, fun _ => hspace⟩
  | boolean b hstart =>
    have hspace := length_skipSpace_le cs
    rw [hstart, List.length_append] at hspace
    exact ⟨by omega, fun _ => .boolean b, fun _ => hspace⟩
  | @number _ _ _ numeral n hread hnumber =>
    have hspace := length_skipSpace_le cs
    obtain ⟨hne, hdigits, hroom⟩ := Numeral.read?_taken hread
    refine ⟨by omega, fun hw => ?_, fun hw => ?_⟩
    all_goals
      cases hw
      obtain ⟨⟨hlow, hhigh⟩, hprinted⟩ := Numeral.toNumber?_integer hne hdigits hnumber
    · exact .integer hlow hhigh
    · rw [render, Printer.number]
      omega

theorem takenBelow (fuel : Nat) : TakenBelow fuel := by
  induction fuel with
  | zero => exact fun _ hk => nomatch hk
  | succ fuel ih =>
    intro k hk d cs v rest h
    cases k with
    | zero => cases h
    | succ k => exact (value_reading h).taken (ih.mono (Nat.lt_succ_iff.1 hk))

end Parser

/-! ## Whole texts -/

theorem taken_of_parse? {text : String} (h : parse? text = some v) :
    ∃ rest, Parser.Taken depthLimit v text.toList rest := by
  rw [parse?, parseChars?] at h
  split at h
  · rename_i v' rest hvalue
    split at h
    · cases h
      exact ⟨rest, Parser.takenBelow _ _ (Nat.lt_succ_self _) _ _ _ _ hvalue⟩
    · cases h
  · cases h

/-- What is parsed and whole is read back from its compact text. -/
theorem parse?_fits {text : String} (h : parse? text = some v) (hw : v.Whole) :
    Fits depthLimit v := by
  obtain ⟨rest, htaken⟩ := taken_of_parse? h
  exact htaken.fits hw

/-- No text of a value is shorter than its compact text. -/
theorem length_compact_le {text : String} (h : parse? text = some v) (hw : v.Whole) :
    v.compact.length ≤ text.length := by
  obtain ⟨rest, htaken⟩ := taken_of_parse? h
  have hroom := htaken.room hw
  rw [compact, String.length_ofList, ← String.length_toList]
  omega

end TwoStepLogin.Json
