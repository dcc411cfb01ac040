import TwoStepLogin.Number.Binary64

/-!
# JSON values

* `Json.Number` — whole numbers of 64 bits, signed or unsigned, and binary floating-point numbers;
* `Json` — a value; the members of an object are sorted by name and no name repeats in objects
  built by `Json.Members.insert`;
* `Json.number`, `Json.ofNat` — short ways to write values.
-/

set_option autoImplicit false

namespace TwoStepLogin

/-- A JSON number: whole if it is written without point and exponent and fits 64 bits. -/
inductive Json.Number where
  | integer (value : Int)
  | float (value : Binary64)
  deriving DecidableEq, Repr

/-- A JSON value. -/
inductive Json where
  | null
  | boolean (value : Bool)
  | number (value : Json.Number)
  | string (value : String)
  | array (items : List Json)
  | object (members : List (String × Json))
  deriving Repr

namespace Json

instance : Inhabited Json := ⟨.null⟩

/-- A whole number as a value. -/
def ofNat (n : Nat) : Json := .number (.integer n)

/-- A text or nothing. -/
def ofText? : Option String → Json
  | none => .null
  | some s => .string s

/-- Put a member in its place among members sorted by name; an older one of that name is replaced. -/
def Members.insert (name : String) (value : Json) : List (String × Json) → List (String × Json)
  | [] => [(name, value)]
  | (other, old) :: rest =>
    if name = other then (name, value) :: rest
    else if name < other then (name, value) :: (other, old) :: rest
    else (other, old) :: Members.insert name value rest

/-- Members in any order, sorted by name, the last of each name kept. -/
def Members.ofList (members : List (String × Json)) : List (String × Json) :=
  members.foldl (fun sorted member => Members.insert member.1 member.2 sorted) []

/-- An object from members in any order. -/
def ofMembers (members : List (String × Json)) : Json := .object (Members.ofList members)

end Json

end TwoStepLogin
