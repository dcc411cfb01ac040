import TwoStepLogin.Json.Parser

/-!
# Records in JSON text

A record with named fields is written as an object, in any order and with unknown fields passed
over, or as an array of its fields in order.

* `Json.Record.Field` — a field's name and what its absence means;
* `Json.Record.read?` — one value per field; a known field given twice is refused, and so is a
  mandatory one that is missing;
* `Json.Record.text?`, `optionalText?`, `optionalUInt32?` — the values that fields may have.
-/

set_option autoImplicit false

namespace TwoStepLogin.Json.Record

/-- What it means that a field is absent. -/
inductive Presence where
  /-- The record is refused. -/
  | mandatory
  /-- In an object it counts as `null`; in an array it may not be left out. -/
  | nullable
  /-- It counts as `null`. -/
  | optional
  deriving DecidableEq, Repr

/-- A field of a record. -/
structure Field where
  name : String
  presence : Presence
  deriving DecidableEq, Repr

/-- Members of an object: values of known names are kept, in order of appearance. -/
def readMembers (fields : List Field) : Nat → List Char → Option (List (String × Json) × List Char)
  | 0, _ => none
  | fuel + 1, cs =>
    match Parser.skipSpace cs with
    | '"' :: rest =>
      match Parser.text rest with
      | none => none
      | some (name, rest) =>
        match Parser.skipSpace rest with
        | ':' :: rest =>
          let known := fields.any fun f => f.name == name
          let read : Option (List (String × Json) × List Char) :=
            if known then
              (Parser.value (Parser.fuelFor rest) Parser.depthLimit rest).map fun (v, after) =>
                ([(name, v)], after)
            else (Parser.skip (Parser.fuelFor rest) rest).map fun after => ([], after)
          match read with
          | none => none
          | some (found, rest) =>
            match Parser.skipSpace rest with
            | '}' :: after => some (found, after)
            | ',' :: rest' =>
              (readMembers fields fuel rest').map fun (more, after) => (found ++ more, after)
            | _ => none
        | _ => none
    | _ => none

/-- The value of a field among the members of an object. -/
def fromMembers? (members : List (String × Json)) (field : Field) : Option Json :=
  match members.filter fun m => m.1 == field.name with
  | [] => if field.presence = .mandatory then none else some .null
  | [m] => some m.2
  | _ => none

/-- The values of the fields among the items of an array. -/
def fromItems? : List Field → List Json → Option (List Json)
  | [], [] => some []
  | [], _ :: _ => none
  | f :: fs, [] => if f.presence = .optional then (fromItems? fs []).map (.null :: ·) else none
  | _ :: fs, v :: vs => (fromItems? fs vs).map (v :: ·)

/-- A record at the head of a text: one value per field, and the text after it. -/
def readHead? (fields : List Field) (cs : List Char) : Option (List Json × List Char) :=
  match Parser.skipSpace cs with
  | '{' :: rest =>
    match Parser.skipSpace rest with
    | '}' :: after => (fields.mapM (fromMembers? [])).map fun vs => (vs, after)
    | _ => do
      let (members, after) ← readMembers fields (rest.length + 1) rest
      let vs ← fields.mapM (fromMembers? members)
      some (vs, after)
  | '[' :: rest =>
    match Parser.skipSpace rest with
    | ']' :: after => (fromItems? fields []).map fun vs => (vs, after)
    | _ => do
      let (items, after) ← Parser.items (Parser.fuelFor rest) Parser.depthLimit rest
      let vs ← fromItems? fields items
      some (vs, after)
  | _ => none

/-- A whole text as one record: one value per field. -/
def read? (fields : List Field) (s : String) : Option (List Json) :=
  match readHead? fields s.toList with
  | some (vs, rest) => if (Parser.skipSpace rest).isEmpty then some vs else none
  | none => none

/-- A text. -/
def text? : Json → Option String
  | .string s => some s
  | _ => none

/-- A text or `null`. -/
def optionalText? : Json → Option (Option String)
  | .null => some none
  | .string s => some (some s)
  | _ => none

/-- A 32-bit count or `null`. -/
def optionalUInt32? : Json → Option (Option UInt32)
  | .null => some none
  | .number (.integer (.ofNat n)) => if n < 4294967296 then some (some (UInt32.ofNat n)) else none
  | _ => none

/-- Write a record: fields in order, each with its value. -/
def write (fields : List (String × Json)) : Json := .object fields

end TwoStepLogin.Json.Record
