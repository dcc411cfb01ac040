/-!
# Log records

* `Log.Level` — severities, most severe first, with `Level.name`;
* `Log.Filter` — the least severe level that is let through, or none at all;
* `Log.Record` — a level and the message text.
-/

set_option autoImplicit false

namespace TwoStepLogin.Log

/-- Severity of a record. -/
inductive Level where
  | error
  | warn
  | info
  | debug
  | trace
  deriving DecidableEq, Repr

/-- Position on the scale of verbosity: an error is the least verbose. -/
def Level.verbosity : Level → Nat
  | .error => 1
  | .warn => 2
  | .info => 3
  | .debug => 4
  | .trace => 5

/-- Upper-case name, as written in front of a record. -/
def Level.name : Level → String
  | .error => "ERROR"
  | .warn => "WARN"
  | .info => "INFO"
  | .debug => "DEBUG"
  | .trace => "TRACE"

/-- What a log lets through: every level up to the given one, or nothing. -/
inductive Filter where
  | off
  | upTo (level : Level)
  deriving DecidableEq, Repr

/-- Verbosity of a filter; `off` lies below every level. -/
def Filter.verbosity : Filter → Nat
  | .off => 0
  | .upTo level => level.verbosity

/-- Whether a filter lets a level through. -/
def Filter.admits (f : Filter) (level : Level) : Bool := level.verbosity ≤ f.verbosity

/-- The more verbose of two filters. -/
def Filter.max (a b : Filter) : Filter :=
  if a.verbosity < b.verbosity then b else a

/-- Upper-case name of the filter. -/
def Filter.name : Filter → String
  | .off => "OFF"
  | .upTo level => level.name

/-- One message together with its severity. -/
structure Record where
  level : Level
  message : String
  deriving DecidableEq, Repr

def Record.error (message : String) : Record := ⟨.error, message⟩

def Record.warn (message : String) : Record := ⟨.warn, message⟩

def Record.info (message : String) : Record := ⟨.info, message⟩

def Record.debug (message : String) : Record := ⟨.debug, message⟩

/-- The line that shows a record: its level, a blank and the message. -/
def Record.line (record : Record) : String :=
  record.level.name ++ " " ++ record.message

end TwoStepLogin.Log
