import TwoStepLogin.Number.Binary64

/-!
# TOML documents

* `Toml.Value` — a value; a table keeps its entries in order;
* `Toml.Section` — the entries below one header;
* `Toml.addAt` — add an entry under keys joined by dots; no key may be repeated.
-/

set_option autoImplicit false

namespace TwoStepLogin.Toml

/-- A floating-point number. -/
inductive Real where
  | finite (value : Binary64)
  | infinity (negative : Bool)
  | nan
  deriving DecidableEq, Repr

/-- A value. A table is dotted if it came about by keys with dots, which may extend it further. -/
inductive Value where
  | string (text : String)
  | integer (value : Int)
  | real (value : Real)
  | boolean (value : Bool)
  | array (items : List Value)
  | table (dotted : Bool) (entries : List (String × Value))
  deriving Repr

instance : Inhabited Value := ⟨.boolean false⟩

/-- Entries of a table, in order. -/
abbrev Entries := List (String × Value)

/-- The entries below one header: a path in brackets, or in double brackets for an element of an
array. -/
structure Section where
  path : List String
  isElement : Bool
  entries : Entries
  deriving Repr

/-- Whether a key is among the entries. -/
def hasKey (key : String) (entries : Entries) : Bool := entries.any fun e => e.1 == key

/-- Add a value under a path of keys. Tables for the keys before the last are made or extended; a
value that is no such table stands in the way, and the last key must be new. -/
def addAt : (path : List String) → Value → Entries → Option Entries
  | [], _, _ => none
  | [key], value, entries => if hasKey key entries then none else some (entries ++ [(key, value)])
  | key :: rest, value, entries => extend key rest value entries
where
  /-- Extend the first entry of that key, or add one. -/
  extend (key : String) (rest : List String) (value : Value) : Entries → Option Entries
    | [] => (nest rest value).map fun inner => [(key, .table true inner)]
    | (other, old) :: more =>
      if other = key then
        match old with
        | .table true inner => (addAt rest value inner).map fun inner =>
          (key, .table true inner) :: more
        | _ => none
      else (extend key rest value more).map ((other, old) :: ·)
  /-- New tables down to the last key. -/
  nest : List String → Value → Option Entries
    | [], _ => none
    | [key], value => some [(key, value)]
    | key :: rest, value => (nest rest value).map fun inner => [(key, .table true inner)]

end TwoStepLogin.Toml
