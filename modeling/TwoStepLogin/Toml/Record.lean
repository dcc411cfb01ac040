import TwoStepLogin.Toml.Basic

/-!
# Records in TOML

A record is a table of its fields, in any order and with unknown keys passed over, or an array of
its first fields in order. Every field may be left out.

* `Toml.Record.values?` — for each field the value it is given, if any; a field given twice is
  refused;
* `Toml.Record.read?` — the value of a field or its default;
* `text?`, `boolean?`, `integer?`, `texts?` — the values that fields may have.
-/

set_option autoImplicit false

namespace TwoStepLogin.Toml.Record

/-- The value of one field among entries, if it is given at most once. -/
def fromEntries? (entries : Entries) (field : String) : Option (Option Value) :=
  match entries.filter fun e => e.1 == field with
  | [] => some none
  | [e] => some (some e.2)
  | _ => none

/-- The values of the fields among the items of an array, which may be too short, not too long. -/
def fromItems? : List String → List Value → Option (List (Option Value))
  | [], [] => some []
  | [], _ :: _ => none
  | _ :: fields, [] => (fromItems? fields []).map (none :: ·)
  | _ :: fields, v :: vs => (fromItems? fields vs).map (some v :: ·)

/-- The values of the fields. -/
def values? (fields : List String) : Value → Option (List (Option Value))
  | .table _ entries => fields.mapM (fromEntries? entries)
  | .array items => fromItems? fields items
  | _ => none

/-- The value of a field, or its default where none is given. -/
def read? {α : Type} (read : Value → Option α) (default : α) : Option Value → Option α
  | none => some default
  | some v => read v

/-- A text. -/
def text? : Value → Option String
  | .string s => some s
  | _ => none

/-- A truth value. -/
def boolean? : Value → Option Bool
  | .boolean b => some b
  | _ => none

/-- A whole number between two bounds. -/
def integer? (least greatest : Int) : Value → Option Int
  | .integer i => if least ≤ i ∧ i ≤ greatest then some i else none
  | _ => none

/-- A sixteen-bit number. -/
def uint16? (v : Value) : Option UInt16 := (integer? 0 65535 v).map fun i => UInt16.ofNat i.toNat

/-- A 32-bit number. -/
def uint32? (v : Value) : Option UInt32 :=
  (integer? 0 4294967295 v).map fun i => UInt32.ofNat i.toNat

/-- A 64-bit number. -/
def uint64? (v : Value) : Option UInt64 :=
  (integer? 0 18446744073709551615 v).map fun i => UInt64.ofNat i.toNat

/-- A 64-bit number with a sign. -/
def int64? (v : Value) : Option Int64 :=
  (integer? (-9223372036854775808) 9223372036854775807 v).map Int64.ofInt

/-- Items of an array, each read in the same way. -/
def list? {α : Type} (read : Value → Option α) : Value → Option (List α)
  | .array items => items.mapM read
  | _ => none

end TwoStepLogin.Toml.Record
