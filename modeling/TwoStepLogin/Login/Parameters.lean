/-!
# Submitted fields

The fields of a form, with all values submitted under each name.

* `Parameters.append` — one more value of a field;
* `Parameters.ofPairs` — all pairs grouped by name;
* `Parameters.firstValue?` — the first value of a field, if it is not empty.
-/

set_option autoImplicit false

namespace TwoStepLogin

/-- Values by field name, in the order of submission. -/
structure Parameters where
  fields : List (String × List String)
  deriving DecidableEq, Repr

namespace Parameters

/-- No fields. -/
def empty : Parameters := ⟨[]⟩

/-- Add a value to a field, a new field at the end. -/
def add (name value : String) : List (String × List String) → List (String × List String)
  | [] => [(name, [value])]
  | (other, values) :: rest =>
    if other = name then (other, values ++ [value]) :: rest
    else (other, values) :: add name value rest

/-- One more value of a field. -/
def append (p : Parameters) (name value : String) : Parameters := ⟨add name value p.fields⟩

/-- All values submitted under a name, in order. -/
def valuesOf (name : String) (pairs : List (String × String)) : List String :=
  (pairs.filter fun pair => pair.1 == name).map (·.2)

/-- The names in the order of their first occurrence. -/
def names : List (String × String) → List String
  | [] => []
  | pair :: rest => pair.1 :: (names rest).filter fun name => name != pair.1

/-- The pairs grouped by name. -/
def ofPairs (pairs : List (String × String)) : Parameters :=
  ⟨(names pairs).map fun name => (name, valuesOf name pairs)⟩

/-- The values of a field. -/
def values (p : Parameters) (name : String) : List String := (p.fields.lookup name).getD []

/-- The first value of a field, if it is not empty. -/
def firstValue? (p : Parameters) (name : String) : Option String :=
  match p.values name with
  | [] => none
  | value :: _ => if value.isEmpty then none else some value

end Parameters

end TwoStepLogin
