import TwoStepLogin.Toml.Record

/-!
# The values of a record's fields

A record that can be read is read field by field, and what a field becomes depends on that field
alone: on its entry if the record is a table, on the item at its place if it is an array.

* `Toml.Record.field?` — what a record gives for a field;
* `Toml.Record.values?_eq_map` — the values of the fields are these, one by one;
* `Toml.Record.read?_bind` — a field of a record that may itself be left out.
-/

set_option autoImplicit false

namespace TwoStepLogin.Toml.Record

variable {fields : List String} {name : String} {v : Value} {entries : Entries}

/-- What a record gives for one of its fields: the entry of that name in a table, the item at its
place in an array. -/
def field? (fields : List String) (name : String) : Value → Option Value
  | .table _ entries => entries.lookup name
  | .array items => items[fields.idxOf name]?
  | _ => none

theorem lookup_of_filter {found : Entries} (h : entries.filter (fun e => e.1 == name) = found) :
    entries.lookup name = found.head?.map Prod.snd := by
  subst h
  induction entries with
  | nil => rfl
  | cons e entries ih =>
    obtain ⟨key, value⟩ := e
    by_cases he : key = name
    · subst he
      simp
    · have hne : (name == key) = false := beq_false_of_ne (Ne.symm he)
      rw [List.lookup_cons, hne, List.filter_cons_of_neg (by simpa using he), ih]

theorem fromEntries?_eq {given : Option Value} (h : fromEntries? entries name = some given) :
    entries.lookup name = given := by
  rw [fromEntries?] at h
  split at h
  · rename_i hfound
    cases h
    exact lookup_of_filter hfound
  · rename_i hfound
    cases h
    exact lookup_of_filter hfound
  · cases h

theorem mapM_fromEntries?_eq {values : List (Option Value)}
    (h : fields.mapM (fromEntries? entries) = some values) :
    values = fields.map fun name => entries.lookup name := by
  induction fields generalizing values with
  | nil =>
    cases h
    rfl
  | cons name fields ih =>
    simp only [List.mapM_cons, Option.bind_eq_bind, Option.bind_eq_some_iff] at h
    obtain ⟨given, hgiven, values, hvalues, h⟩ := h
    cases h
    rw [List.map_cons, fromEntries?_eq hgiven, ih hvalues]

theorem fromItems?_eq {items : List Value} {values : List (Option Value)} (hfields : fields.Nodup)
    (h : fromItems? fields items = some values) :
    values = fields.map fun name => items[fields.idxOf name]? := by
  induction fields generalizing items values with
  | nil =>
    cases items with
    | nil =>
      cases h
      rfl
    | cons _ _ => cases h
  | cons name fields ih =>
    obtain ⟨hname, hfields⟩ := List.nodup_cons.1 hfields
    cases items with
    | nil =>
      obtain ⟨values, hvalues, rfl⟩ := Option.map_eq_some_iff.1 h
      rw [ih hfields hvalues]
      simp
    | cons item items =>
      obtain ⟨values, hvalues, rfl⟩ := Option.map_eq_some_iff.1 h
      have htail : ∀ other ∈ fields, items[fields.idxOf other]? =
          (item :: items)[(name :: fields).idxOf other]? := by
        intro other hother
        have hne : name ≠ other := fun he => hname (he ▸ hother)
        rw [List.idxOf_cons, beq_false_of_ne hne, cond_false, List.getElem?_cons_succ]
      rw [ih hfields hvalues, List.map_congr_left htail, List.map_cons, List.idxOf_cons_self]
      rfl

/-- The values of the fields are what the record gives for each. -/
theorem values?_eq_map {values : List (Option Value)} (hfields : fields.Nodup)
    (h : values? fields v = some values) : values = fields.map fun name => field? fields name v := by
  cases v with
  | table dotted entries => exact mapM_fromEntries?_eq h
  | array items => exact fromItems?_eq hfields h
  | string _ => cases h
  | integer _ => cases h
  | real _ => cases h
  | boolean _ => cases h

/-- What is made of the values of the fields is made of what the record gives for each. -/
theorem bind_values? {α : Type} {make : List (Option Value) → Option α} {a : α}
    (hfields : fields.Nodup) (h : (values? fields v).bind make = some a) :
    make (fields.map fun name => field? fields name v) = some a := by
  obtain ⟨values, hvalues, h⟩ := Option.bind_eq_some_iff.1 h
  rwa [values?_eq_map hfields hvalues] at h

/-- A field of a record that may be left out, and then has its default with all the others. -/
theorem read?_bind {α β : Type} {record : Option Value} {ofValue? : Value → Option β} {default b : β}
    {read : Value → Option α} {field : Value → Option Value} (get : β → α)
    (h : read? ofValue? default record = some b)
    (hfield : ∀ v b, ofValue? v = some b → read? read (get default) (field v) = some (get b)) :
    read? read (get default) (record.bind field) = some (get b) := by
  cases record with
  | none =>
    cases h
    rfl
  | some v => exact hfield v b h

end TwoStepLogin.Toml.Record
