import Mathlib.Data.List.Nodup
import TwoStepLogin.Proofs.Login.ResponseJudgement

/-!
# Submitted fields by name

Adding submitted pairs one after another and grouping them all at once give the same fields. A look at
a field sees the first value submitted under its name and nothing behind it: an empty first value hides
a later one that is not empty.

* `Parameters.append_ofPairs` — one more value of a field is one more pair;
* `Parameters.firstFilled?` — the first value under a name that is not empty;
* `Parameters.submitted_fields_show_first_value` — both ways, and what a look at a field answers.
-/

set_option autoImplicit false

namespace TwoStepLogin.Parameters

variable {name value : String} {pairs : List (String × String)}

/-! ## Names and values -/

@[simp] theorem mem_names_iff : name ∈ names pairs ↔ ∃ pair ∈ pairs, pair.1 = name := by
  induction pairs with
  | nil => simp [names]
  | cons pair rest ih =>
    rw [names, List.mem_cons, List.mem_filter, ih, List.exists_mem_cons_iff]
    by_cases hname : pair.1 = name
    · simp [hname]
    · simp [hname, Ne.symm hname]

theorem nodup_names (pairs : List (String × String)) : (names pairs).Nodup := by
  induction pairs with
  | nil => exact List.nodup_nil
  | cons pair rest ih =>
    rw [names, List.nodup_cons]
    exact ⟨by simp, ih.filter _⟩

/-- A name comes at the end of the names when it is submitted for the first time. -/
theorem names_append_singleton (pairs : List (String × String)) (name value : String) :
    names (pairs ++ [(name, value)]) =
      if name ∈ names pairs then names pairs else names pairs ++ [name] := by
  induction pairs with
  | nil => rfl
  | cons pair rest ih =>
    rw [List.cons_append, names, names, ih]
    by_cases hfirst : name = pair.1
    · have hmem : name ∈ pair.1 :: (names rest).filter (· != pair.1) :=
        hfirst ▸ List.mem_cons_self
      rw [if_pos hmem]
      split
      · rfl
      · simp [hfirst]
    · have hmem : name ∈ pair.1 :: (names rest).filter (· != pair.1) ↔ name ∈ names rest := by
        simp [hfirst]
      simp only [hmem]
      split
      · rfl
      · simp [hfirst]

theorem valuesOf_append_singleton (pairs : List (String × String)) (name value other : String) :
    valuesOf other (pairs ++ [(name, value)]) =
      if other = name then valuesOf other pairs ++ [value] else valuesOf other pairs := by
  rw [valuesOf, List.filter_append, List.map_append]
  by_cases hname : other = name
  · simp [hname, valuesOf]
  · simp [hname, Ne.symm hname, valuesOf]

theorem valuesOf_eq_nil (h : name ∉ names pairs) : valuesOf name pairs = [] := by
  rw [valuesOf, List.map_eq_nil_iff, List.filter_eq_nil_iff]
  intro pair hpair hname
  exact h (mem_names_iff.2 ⟨pair, hpair, by simpa using hname⟩)

/-! ## Two ways to the same fields -/

/-- A value of a field that is there goes behind its values, ... -/
theorem add_map_of_mem {present : List String} (hnodup : present.Nodup) (h : name ∈ present)
    (values : String → List String) :
    add name value (present.map fun other => (other, values other)) =
      present.map fun other =>
        (other, if other = name then values other ++ [value] else values other) := by
  induction present with
  | nil => cases h
  | cons other present ih =>
    obtain ⟨hother, hnodup⟩ := List.nodup_cons.1 hnodup
    rw [List.map_cons, List.map_cons, add]
    by_cases hname : other = name
    · rw [if_pos hname, if_pos hname]
      -- the name does not occur again, so the other fields stay
      refine congrArg _ (List.map_congr_left fun later hlater => ?_)
      have hne : later ≠ name := fun heq => hother (hname.trans heq.symm ▸ hlater)
      rw [if_neg hne]
    · rw [if_neg hname, if_neg hname, ih hnodup (List.mem_of_ne_of_mem (Ne.symm hname) h)]

/-- ... and a field that is not there is a new one at the end. -/
theorem add_map_of_notMem {present : List String} (h : name ∉ present)
    (values : String → List String) :
    add name value (present.map fun other => (other, values other)) =
      present.map (fun other => (other, values other)) ++ [(name, [value])] := by
  induction present with
  | nil => rfl
  | cons other present ih =>
    obtain ⟨hother, hpresent⟩ := List.ne_and_not_mem_of_not_mem_cons h
    rw [List.map_cons, add, if_neg (Ne.symm hother), ih hpresent, List.cons_append]

/-- One more value of a field is one more pair. -/
theorem append_ofPairs (pairs : List (String × String)) (name value : String) :
    (ofPairs pairs).append name value = ofPairs (pairs ++ [(name, value)]) := by
  rw [append, ofPairs, ofPairs, names_append_singleton]
  simp only [valuesOf_append_singleton]
  by_cases h : name ∈ names pairs
  · rw [if_pos h, add_map_of_mem (nodup_names pairs) h]
  · rw [if_neg h, add_map_of_notMem h, List.map_append, List.map_singleton, if_pos rfl,
      valuesOf_eq_nil h, List.nil_append]
    refine congrArg (fun fields => Parameters.mk (fields ++ _)) ?_
    refine List.map_congr_left fun other hother => ?_
    have hne : other ≠ name := fun heq => h (heq ▸ hother)
    rw [if_neg hne]

/-- Pairs added one after another to grouped pairs are grouped with them. -/
theorem foldl_append (before after : List (String × String)) :
    after.foldl (fun p pair => p.append pair.1 pair.2) (ofPairs before) =
      ofPairs (before ++ after) := by
  induction after generalizing before with
  | nil => rw [List.append_nil]; rfl
  | cons pair after ih =>
    rw [List.foldl_cons, append_ofPairs, ih, List.append_assoc, List.singleton_append]

/-! ## Looking at a field -/

/-- A field holds the values submitted under its name, in order. -/
theorem values_ofPairs (pairs : List (String × String)) (name : String) :
    (ofPairs pairs).values name = valuesOf name pairs := by
  rw [values, ofPairs]
  by_cases h : name ∈ names pairs
  · rw [List.lookup_graph (fun name => valuesOf name pairs) h, Option.getD_some]
  · have hnone : ((names pairs).map fun other => (other, valuesOf other pairs)).lookup name = none :=
      List.lookup_eq_none_iff.2 fun field hfield => by
        obtain ⟨other, hother, rfl⟩ := List.mem_map.1 hfield
        exact bne_iff_ne.2 fun heq => h (heq ▸ hother)
    rw [hnone, valuesOf_eq_nil h, Option.getD_none]

/-- The first value submitted under a name that is not empty. -/
def firstFilled? (name : String) (pairs : List (String × String)) : Option String :=
  (valuesOf name pairs).find? fun value => !value.isEmpty

/-- However the fields are put together, a look at one answers the first value submitted under its
name, and nothing where that is empty. This is the first value that is not empty, except where an
empty one was submitted first and one that is not empty later. -/
theorem submitted_fields_show_first_value (pairs : List (String × String)) :
    pairs.foldl (fun p pair => p.append pair.1 pair.2) empty = ofPairs pairs ∧
      ∀ name,
        (∀ value, (ofPairs pairs).firstValue? name = some value ↔
          (valuesOf name pairs).head? = some value ∧ value ≠ "") ∧
        ((ofPairs pairs).firstValue? name = firstFilled? name pairs ↔
          ∀ later, valuesOf name pairs = "" :: later → ∀ value ∈ later, value = "") := by
  refine ⟨foldl_append [] pairs, fun name => ⟨fun value => ?_, ?_⟩⟩
  · rw [firstValue?_eq_some_iff, values_ofPairs]
  · rw [firstValue?, firstFilled?, values_ofPairs]
    cases valuesOf name pairs with
    | nil => simp
    | cons first later =>
      by_cases hfirst : first = ""
      · subst hfirst
        simp [eq_comm (a := (none : Option String))]
      · simp [hfirst]

/-- A field left empty and then filled in: nothing is seen of the second value. -/
theorem emptied_field_hides_later_value :
    let pairs := [("authMethod", ""), ("authMethod", "enroll")]
    firstFilled? "authMethod" pairs = some "enroll" ∧
      (ofPairs pairs).firstValue? "authMethod" = none := by
  decide

end TwoStepLogin.Parameters
