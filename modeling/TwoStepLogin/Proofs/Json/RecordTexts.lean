import TwoStepLogin.Json.Record
import TwoStepLogin.Proofs.Json.ReaderLimits

/-!
# Texts of records

A record is read from the text of an object without building the object first: members of other names
are passed over, and the order of the text decides nothing. So what a record becomes is a matter of
the members alone, and the two ways of reading an object, into a value and into a record, accept the
same members.

* `Json.Written` — a text is one object with the given members, in the order of the text;
* `Json.parse?_eq_object_iff` — these are the texts that are parsed as objects;
* `Json.Written.read?` — a record by the members of its text;
* `Json.Record.Agrees` — encoding and decoding of a kind of record agree;
* `Json.Record.agrees_of_members` — they do if one way round gives each record back.
-/

set_option autoImplicit false

namespace TwoStepLogin.Json

open Json.Parser
open Json.Record (Field readMembers fromMembers?)

variable {s : String} {ms extra : List (String × Json)} {fields : List Field} {d fuel : Nat}
  {cs rest : List Char}

/-- A text is one object with these members, in the order of the text. Names may repeat. -/
def Written (s : String) (ms : List (String × Json)) : Prop :=
  ∃ start rest, skipSpace s.toList = '{' :: start ∧ skipSpace rest = [] ∧
    (skipSpace start = '}' :: rest ∧ ms = [] ∨
      ∃ fuel, members fuel (depthLimit - 1) start = some (ms, rest))

/-! ## Objects as texts -/

/-- A value that is an object was read from its members. -/
theorem Parser.Reading.object_members {v : Json} (h : Reading fuel d cs v rest)
    (hv : v = .object ms) : ∃ d' start, d = d' + 1 ∧ skipSpace cs = '{' :: start ∧
      (skipSpace start = '}' :: rest ∧ ms = [] ∨
        ∃ ms', Parser.members fuel d' start = some (ms', rest) ∧ ms = Members.ofList ms') := by
  cases h with
  | noMembers hstart hend =>
    cases hv
    exact ⟨_, _, rfl, hstart, .inl ⟨hend, rfl⟩⟩
  | members hstart hms =>
    cases hv
    exact ⟨_, _, rfl, hstart, .inr ⟨_, hms, rfl⟩⟩
  | string _ _ => cases hv
  | noItems _ _ => cases hv
  | items _ _ => cases hv
  | null _ => cases hv
  | boolean _ _ => cases hv
  | number _ _ => cases hv

theorem parse?_eq_some_iff {v : Json} : parse? s = some v ↔
    ∃ rest, value (fuelFor s.toList) depthLimit s.toList = some (v, rest) ∧ skipSpace rest = [] := by
  rw [parse?, parseChars?]
  constructor
  · intro h
    split at h
    · rename_i rest hvalue
      split at h
      · rename_i hend
        cases h
        exact ⟨rest, hvalue, List.isEmpty_iff.1 hend⟩
      · cases h
    · cases h
  · rintro ⟨rest, hvalue, hend⟩
    simp only [hvalue, hend, List.isEmpty_nil, if_true]

/-- A text is parsed as an object if and only if it is written as members; then these are sorted, and
the last of each name is kept. -/
theorem parse?_eq_object_iff {sorted : List (String × Json)} :
    parse? s = some (.object sorted) ↔ ∃ ms, Written s ms ∧ sorted = Members.ofList ms := by
  rw [parse?_eq_some_iff]
  constructor
  · rintro ⟨rest, hvalue, hend⟩
    obtain ⟨d', start, hd, hstart, ⟨hbrace, rfl⟩ | ⟨ms, hms, rfl⟩⟩ :=
      (value_reading hvalue).object_members rfl
    · exact ⟨[], ⟨start, rest, hstart, hend, .inl ⟨hbrace, rfl⟩⟩, rfl⟩
    · obtain rfl : depthLimit - 1 = d' := by omega
      exact ⟨ms, ⟨start, rest, hstart, hend, .inr ⟨_, hms⟩⟩, rfl⟩
  · rintro ⟨ms, ⟨start, rest, hstart, hend, hms⟩, rfl⟩
    refine ⟨rest, Reading.value ?_, hend⟩
    obtain ⟨hbrace, rfl⟩ | ⟨fuel, hms⟩ := hms
    · exact .noMembers (d := depthLimit - 1) hstart hbrace
    · have hroom := length_of_skipSpace hstart
      exact .members (d := depthLimit - 1) hstart
        ((members_settled (settledBelow fuel) hms).read _ _ (Nat.le_refl _) (by omega))

/-- The compact text of an object is written as the members of the object. -/
theorem written_compact (hms : ∀ m ∈ ms, Fits (depthLimit - 1) m.2) :
    Written (Json.object ms).compact ms := by
  have htext : (Json.object ms).compact.toList = '{' :: (Printer.renderMembers ms ++ ['}']) := by
    rw [compact, String.toList_ofList, Printer.render, List.cons_append]
  refine ⟨_, [], by rw [htext, skipSpace_cons rfl], rfl, ?_⟩
  cases ms with
  | nil => exact .inl ⟨rfl, rfl⟩
  | cons m ms =>
    exact .inr ⟨_, ReadsBack.members (fun m hm => (hms m hm).readsBack) (by simp) (Nat.le_refl _)⟩

/-! ## Records by their members -/

namespace Record

/-- None of the members has the name of a field. -/
def Unknown (fields : List Field) (ms : List (String × Json)) : Prop :=
  ∀ m ∈ ms, ∀ f ∈ fields, f.name ≠ m.1

/-- Whether a field has the name. -/
def knows (fields : List Field) (name : String) : Bool := fields.any fun f => f.name == name

/-- Of members in a row those of known names are kept, and the others are passed over. -/
theorem readMembers_eq {k : Nat} (h : members k d cs = some (ms, rest)) (hd : d ≤ depthLimit)
    (hf : cs.length < fuel) :
    readMembers fields fuel cs = some (ms.filter fun m => knows fields m.1, rest) := by
  induction k generalizing cs ms fuel with
  | zero => cases h
  | succ k ih =>
    obtain ⟨fuel, rfl⟩ : ∃ n, fuel = n + 1 := ⟨fuel - 1, by omega⟩
    obtain ⟨name, x, start, colon, middle, after, hstart, hname, hmiddle, hvalue, hrest⟩ :=
      members_cases h
    have hx := settled hvalue
    have hread := hx.read depthLimit (fuelFor middle) hd (by rw [fuelFor]; omega)
    have hpassed := hx.passed (fuelFor middle) (by rw [fuelFor]; omega)
    have hroom : after.length + 1 ≤ cs.length := by
      have := length_of_skipSpace hstart
      have := text_room hname
      have := length_of_skipSpace hmiddle
      have := value_shrinks hvalue
      omega
    have hfound : (if fields.any fun f => f.name == name then some ([(name, x)], after)
        else some ([], after)) = some ([(name, x)].filter fun m => knows fields m.1, after) := by
      cases hk : knows fields name <;> simp only [knows] at hk <;> simp [knows, hk]
    obtain ⟨hend, rfl⟩ | ⟨after', ms', hcomma, hms, rfl⟩ := hrest
    · simp only [readMembers, hstart, hname, hmiddle, hread, hpassed, Option.map_some, hfound, hend]
    · have hcomma' := length_of_skipSpace hcomma
      have hmore : readMembers fields fuel after' =
          some (ms'.filter fun m => knows fields m.1, rest) := ih hms (by omega)
      simp only [readMembers, hstart, hname, hmiddle, hread, hpassed, Option.map_some, hfound, hcomma,
        hmore, ← List.filter_append, List.singleton_append]

/-- Members of other names do not count. -/
theorem fromMembers?_filter {f : Field} (hf : f ∈ fields) :
    fromMembers? (ms.filter fun m => knows fields m.1) f = fromMembers? ms f := by
  have hfilter : (ms.filter fun m => knows fields m.1).filter (fun m => m.1 == f.name) =
      ms.filter fun m => m.1 == f.name := by
    rw [List.filter_filter]
    refine List.filter_congr fun m _ => ?_
    by_cases hm : m.1 = f.name
    · have hk : knows fields m.1 = true := List.any_eq_true.2 ⟨f, hf, by simp [hm]⟩
      simp [hm, hm ▸ hk]
    · simp [hm]
  rw [fromMembers?, hfilter, fromMembers?]

/-- The order of members does not count. -/
theorem fromMembers?_perm {ms' : List (String × Json)} (h : ms'.Perm ms) (f : Field) :
    fromMembers? ms' f = fromMembers? ms f := by
  have hfilter := h.filter fun m => m.1 == f.name
  rw [fromMembers?, fromMembers?]
  generalize ms'.filter (fun m => m.1 == f.name) = found' at hfilter
  generalize ms.filter (fun m => m.1 == f.name) = found at hfilter
  match found with
  | [] => rw [hfilter.eq_nil]
  | [m] => rw [List.perm_singleton.1 hfilter]
  | _ :: _ :: _ =>
    match found', hfilter.length_eq with
    | _ :: _ :: _, _ => rfl

theorem fromMembers?_append_unknown {f : Field} (hf : f ∈ fields) (hextra : Unknown fields extra) :
    fromMembers? (ms ++ extra) f = fromMembers? ms f := by
  have hnone : extra.filter (fun m => m.1 == f.name) = [] :=
    List.filter_eq_nil_iff.2 fun m hm => by simpa using fun h => hextra m hm f hf h.symm
  rw [fromMembers?, List.filter_append, hnone, List.append_nil, fromMembers?]

theorem fromMembers?_repeated {f : Field} (h : 1 < (ms.map Prod.fst).count f.name) :
    fromMembers? ms f = none := by
  have hlength : (ms.filter fun m => m.1 == f.name).length = (ms.map Prod.fst).count f.name := by
    rw [List.count, List.countP_map, List.countP_eq_length_filter]
    rfl
  rw [fromMembers?]
  generalize ms.filter (fun m => m.1 == f.name) = found at hlength
  rw [← hlength] at h
  match found, h with
  | _ :: _ :: _, _ => rfl

theorem fromMembers?_missing {f : Field} (hf : f.presence = .mandatory)
    (h : f.name ∉ ms.map Prod.fst) : fromMembers? ms f = none := by
  have hnone : ms.filter (fun m => m.1 == f.name) = [] :=
    List.filter_eq_nil_iff.2 fun m hm hname =>
      h (List.mem_map.2 ⟨m, hm, by simpa using hname⟩)
  rw [fromMembers?, hnone]
  exact if_pos hf

/-- The values of fields are those of each field. -/
theorem mapM_congr {values values' : Field → Option Json} (h : ∀ f ∈ fields, values f = values' f) :
    fields.mapM values = fields.mapM values' := by
  induction fields with
  | nil => rfl
  | cons f fields ih =>
    rw [List.mapM_cons, List.mapM_cons, h f List.mem_cons_self,
      ih fun g hg => h g (List.mem_cons_of_mem _ hg)]

/-- A field without a value leaves the record without values. -/
theorem mapM_none {values : Field → Option Json} {f : Field} (hf : f ∈ fields)
    (h : values f = none) : fields.mapM values = none := by
  induction fields with
  | nil => cases hf
  | cons g fields ih =>
    rw [List.mapM_cons]
    obtain rfl | hf := List.mem_cons.1 hf
    · rw [h]
      rfl
    · rw [ih hf]
      cases values g <;> rfl

end Record

/-- The values of a record are those of the members in its text. -/
theorem Written.read? (h : Written s ms) :
    Record.read? fields s = fields.mapM (fromMembers? ms) := by
  obtain ⟨start, rest, hstart, hend, hms⟩ := h
  have hhead : Record.readHead? fields s.toList =
      (fields.mapM (fromMembers? ms)).map fun vs => (vs, rest) := by
    rw [Record.readHead?, hstart]
    obtain ⟨hbrace, rfl⟩ | ⟨fuel, hms⟩ := hms
    · simp only [hbrace]
    · have hread : readMembers fields (start.length + 1) start =
          some (ms.filter fun m => Record.knows fields m.1, rest) :=
        Record.readMembers_eq hms (Nat.sub_le _ _) (Nat.lt_succ_self _)
      have hvalues : fields.mapM (fromMembers? (ms.filter fun m => Record.knows fields m.1)) =
          fields.mapM (fromMembers? ms) :=
        Record.mapM_congr fun f hf => Record.fromMembers?_filter hf
      obtain ⟨start', hquote⟩ := members_head hms
      simp only [hquote, hread, Option.bind_eq_bind, Option.bind_some, hvalues]
      cases fields.mapM (fromMembers? ms) <;> rfl
  rw [Record.read?, hhead]
  cases fields.mapM (fromMembers? ms) with
  | none => rfl
  | some vs => simp only [Option.map_some, hend, List.isEmpty_nil, if_true]

/-! ## Encoding and decoding -/

namespace Record

/-- Encoding and decoding of a kind of record agree. A record comes back from its text, which is the
text of an object; the order of an object's members and members of other names do not matter to
decoding; but no field may be given twice, and no mandatory one may be missing. -/
structure Agrees {α : Type} (fields : List Field) (toJson : α → Json) (read? : String → Option α) :
    Prop where
  returned : ∀ a, read? (toJson a).compact = some a
  written : ∀ a, ∃ ms, toJson a = .object ms ∧ Written (toJson a).compact ms
  rearranged : ∀ s s' ms ms' extra, Written s ms → Written s' ms' → ms'.Perm (ms ++ extra) →
    Unknown fields extra → read? s' = read? s
  repeated : ∀ s ms, Written s ms → ∀ f ∈ fields, 1 < (ms.map Prod.fst).count f.name →
    read? s = none
  missing : ∀ s ms, Written s ms → ∀ f ∈ fields, f.presence = .mandatory →
    f.name ∉ ms.map Prod.fst → read? s = none

/-- A kind of record that is read by the values of its fields, and whose members give these values
back, is encoded and decoded in agreement. -/
theorem agrees_of_members {α : Type} {toJson : α → Json} {ofValues? : List Json → Option α}
    (h : ∀ a, ∃ ms, toJson a = .object ms ∧ (∀ m ∈ ms, Fits (depthLimit - 1) m.2) ∧
      (fields.mapM (fromMembers? ms)).bind ofValues? = some a) :
    Agrees fields toJson fun s => (Record.read? fields s).bind ofValues? where
  returned a := by
    obtain ⟨ms, hobject, hfits, hvalues⟩ := h a
    rw [hobject, (written_compact hfits).read?, hvalues]
  written a := by
    obtain ⟨ms, hobject, hfits, -⟩ := h a
    exact ⟨ms, hobject, hobject ▸ written_compact hfits⟩
  rearranged s s' ms ms' extra hs hs' hperm hextra := by
    have hvalues : fields.mapM (fromMembers? ms') = fields.mapM (fromMembers? ms) :=
      mapM_congr fun f hf => by
        rw [fromMembers?_perm hperm, fromMembers?_append_unknown hf hextra]
    rw [hs.read?, hs'.read?, hvalues]
  repeated s ms hs f hf hcount := by
    rw [hs.read?, mapM_none hf (fromMembers?_repeated hcount), Option.bind_none]
  missing s ms hs f hf hmandatory hname := by
    rw [hs.read?, mapM_none hf (fromMembers?_missing hmandatory hname), Option.bind_none]

end Record

end TwoStepLogin.Json
