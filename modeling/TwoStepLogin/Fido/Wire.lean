import TwoStepLogin.Fido.Basic
import TwoStepLogin.Json.Printer
import TwoStepLogin.Json.Record
import TwoStepLogin.Login.Workflow

/-!
# FIDO records as JSON

* `Fido.Metadata.toJson`, `Fido.Metadata.read?` — the published configuration;
* `Fido.Status.toJson`, `Fido.Status.read?` — a verdict, whose challenge may be left out;
* `Workflow.toJson`, `Workflow.readJson?` — a workflow, by its name alone or as the only member of
  an object, with `null` as value.
-/

set_option autoImplicit false

namespace TwoStepLogin

open Json.Record (Field text? optionalText?)

namespace Fido.Metadata

/-- The fields of a published configuration. -/
def fields : List Field :=
  [⟨"version", .mandatory⟩, ⟨"issuer", .mandatory⟩, ⟨"registration_endpoint", .mandatory⟩,
   ⟨"authentication_endpoint", .mandatory⟩]

/-- A configuration as a record. -/
def toJson (metadata : Metadata) : Json :=
  Json.Record.write [
    ("version", .string metadata.version),
    ("issuer", .string metadata.issuer),
    ("registration_endpoint", .string metadata.registrationEndpoint),
    ("authentication_endpoint", .string metadata.authenticationEndpoint)]

/-- The configuration of field values. -/
def ofValues? : List Json → Option Metadata
  | [version, issuer, registration, authentication] => do
    some ⟨← text? version, ← text? issuer, ← text? registration, ← text? authentication⟩
  | _ => none

/-- Read a configuration. -/
def read? (text : String) : Option Metadata := (Json.Record.read? fields text).bind ofValues?

end Fido.Metadata

namespace Fido.Status

/-- The fields of a verdict. -/
def fields : List Field := [⟨"status", .mandatory⟩, ⟨"challenge", .optional⟩]

/-- A verdict as a record; a challenge that is not there is left out. -/
def toJson (s : Status) : Json :=
  Json.Record.write (("status", .string s.status) ::
    match s.challenge with
    | none => []
    | some challenge => [("challenge", .string challenge)])

/-- The verdict of field values. -/
def ofValues? : List Json → Option Status
  | [status, challenge] => do
    some ⟨← text? status, ← optionalText? challenge⟩
  | _ => none

/-- Read a verdict. -/
def read? (text : String) : Option Status := (Json.Record.read? fields text).bind ofValues?

end Fido.Status

namespace Workflow

/-- A workflow by its name. -/
def toJson (workflow : Workflow) : Json := .string workflow.name

/-- A workflow as the only member of an object, after the brace. -/
def readMember? (cs : List Char) : Option (String × List Char) :=
  match Json.Parser.skipSpace cs with
  | '"' :: rest =>
    match Json.Parser.text rest with
    | none => none
    | some (name, rest) =>
      match Json.Parser.skipSpace rest with
      | ':' :: rest =>
        match Json.Parser.word? ['n', 'u', 'l', 'l'] (Json.Parser.skipSpace rest) with
        | none => none
        | some rest =>
          match Json.Parser.skipSpace rest with
          | '}' :: after => some (name, after)
          | _ => none
      | _ => none
  | _ => none

/-- Read a workflow. -/
def readJson? (s : String) : Option Workflow :=
  let read : Option (String × List Char) :=
    match Json.Parser.skipSpace s.toList with
    | '"' :: rest => Json.Parser.text rest
    | '{' :: rest => readMember? rest
    | _ => none
  match read with
  | some (name, rest) => if (Json.Parser.skipSpace rest).isEmpty then ofName? name else none
  | none => none

end Workflow

end TwoStepLogin
