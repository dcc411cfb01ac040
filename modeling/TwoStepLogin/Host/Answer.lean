import TwoStepLogin.Json.Printer
import TwoStepLogin.Json.Record

/-!
# Bodies of the host's answers

* `Host.StepAnswer` — the answer to a submitted step;
* `Host.Health` — the answer to a health check;
* `Host.problem` — an error word with an explanation.
-/

set_option autoImplicit false

namespace TwoStepLogin.Host

open Json.Record (Field text? optionalText? optionalUInt32?)

/-- The answer to a submitted step. -/
structure StepAnswer where
  status : String
  step : Option UInt32
  page : Option String
  user : Option String
  deriving DecidableEq, Repr

namespace StepAnswer

/-- The next step and its page, if it has one of its own. -/
def nextStep (step : UInt32) (page : String) : StepAnswer :=
  ⟨"next_step", some step, if page.isEmpty then none else some page, none⟩

/-- The login is complete. -/
def authenticated (user : Option String) : StepAnswer := ⟨"authenticated", none, none, user⟩

/-- The step was not accepted. -/
def failed (step : UInt32) : StepAnswer := ⟨"failed", some step, none, none⟩

/-- The fields of an answer. -/
def fields : List Field :=
  [⟨"status", .mandatory⟩, ⟨"step", .optional⟩, ⟨"page", .optional⟩, ⟨"user", .optional⟩]

/-- A member for a value that is there. -/
def present {α : Type} (name : String) (encode : α → Json) : Option α → List (String × Json)
  | none => []
  | some a => [(name, encode a)]

/-- An answer as a record; what is absent is left out. -/
def toJson (a : StepAnswer) : Json :=
  Json.Record.write (("status", .string a.status) ::
    (present "step" (fun n => .ofNat n.toNat) a.step ++ present "page" .string a.page ++
      present "user" .string a.user))

/-- The answer of field values. -/
def ofValues? : List Json → Option StepAnswer
  | [status, step, page, user] => do
    some ⟨← text? status, ← optionalUInt32? step, ← optionalText? page, ← optionalText? user⟩
  | _ => none

/-- Read an answer. -/
def read? (text : String) : Option StepAnswer := (Json.Record.read? fields text).bind ofValues?

end StepAnswer

/-- The answer to a health check. -/
structure Health where
  status : String
  message : String
  version : String
  deriving DecidableEq, Repr

namespace Health

/-- The version of this host. -/
def currentVersion : String := "0.1.0"

/-- The answer of a host that runs. -/
def current : Health := ⟨"ok", "U2F step authentication is running", currentVersion⟩

/-- The fields of an answer. -/
def fields : List Field :=
  [⟨"status", .mandatory⟩, ⟨"message", .mandatory⟩, ⟨"version", .mandatory⟩]

/-- An answer as a record. -/
def toJson (h : Health) : Json :=
  Json.Record.write [
    ("status", .string h.status), ("message", .string h.message), ("version", .string h.version)]

/-- The answer of field values. -/
def ofValues? : List Json → Option Health
  | [status, message, version] => do
    some ⟨← text? status, ← text? message, ← text? version⟩
  | _ => none

/-- Read an answer. -/
def read? (text : String) : Option Health := (Json.Record.read? fields text).bind ofValues?

end Health

/-- An error word with an explanation. -/
def problem (word message : String) : Json :=
  .object [("error", .string word), ("message", .string message)]

end TwoStepLogin.Host
