import TwoStepLogin.Text.Blank

/-!
# Named texts

A store of texts under names, as a configuration and a session keep them.

* `Attributes.get?`, `Attributes.set`, `Attributes.remove` — reading and writing;
* `Attributes.present?` — a value without the blanks at its ends, unless nothing is left of it.
-/

set_option autoImplicit false

namespace TwoStepLogin

/-- Texts under names; no name occurs twice in stores made by `set`. -/
structure Attributes where
  entries : List (String × String)
  deriving DecidableEq, Repr

namespace Attributes

/-- A store without entries. -/
def empty : Attributes := ⟨[]⟩

/-- Write a value in the place of an older one, or at the end. -/
def put (key value : String) : List (String × String) → List (String × String)
  | [] => [(key, value)]
  | (other, old) :: rest =>
    if other = key then (key, value) :: rest else (other, old) :: put key value rest

/-- The value under a name. -/
def get? (a : Attributes) (key : String) : Option String := a.entries.lookup key

/-- Write a value. -/
def set (a : Attributes) (key value : String) : Attributes := ⟨put key value a.entries⟩

/-- Forget a value. -/
def remove (a : Attributes) (key : String) : Attributes :=
  ⟨a.entries.filter fun e => e.1 != key⟩

/-- Write the pairs in order. -/
def ofPairs (pairs : List (String × String)) : Attributes :=
  pairs.foldl (fun a pair => a.set pair.1 pair.2) empty

/-- The value without the blanks at its ends, if anything is left of it. -/
def present? (a : Attributes) (key : String) : Option String :=
  (a.get? key).bind fun value =>
    let trimmed := Text.trim value
    if trimmed.isEmpty then none else some trimmed

theorem lookup_put (key value : String) (entries : List (String × String)) (other : String) :
    (put key value entries).lookup other =
      if other = key then some value else entries.lookup other := by
  induction entries with
  | nil => simp only [put, List.lookup_cons, List.lookup_nil]; grind
  | cons e rest ih =>
    obtain ⟨k, old⟩ := e
    unfold put
    split <;> simp only [List.lookup_cons, ih] <;> grind

theorem get?_set (a : Attributes) (key value other : String) :
    (a.set key value).get? other = if other = key then some value else a.get? other :=
  lookup_put _ _ _ _

@[simp] theorem get?_set_self (a : Attributes) (key value : String) :
    (a.set key value).get? key = some value := by
  simp [get?_set]

theorem get?_remove (a : Attributes) (key other : String) :
    (a.remove key).get? other = if other = key then none else a.get? other := by
  obtain ⟨entries⟩ := a
  simp only [remove, get?]
  induction entries with
  | nil => simp
  | cons e rest ih =>
    obtain ⟨k, v⟩ := e
    by_cases hk : k = key
    · subst hk
      simp only [List.filter_cons, bne_self_eq_false, Bool.false_eq_true, if_false, ih,
        List.lookup_cons]
      grind
    · have : (k != key) = true := by simpa using hk
      simp only [List.filter_cons, this, if_true, List.lookup_cons, ih]
      grind

end Attributes

end TwoStepLogin
