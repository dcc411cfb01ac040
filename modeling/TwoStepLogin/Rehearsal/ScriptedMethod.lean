import TwoStepLogin.Login.Method
import TwoStepLogin.Rehearsal.Fixture

/-!
# A scripted method

A method that asks nobody and leaves traces in the session.

* `ScriptedMethod` — what the method will do;
* `ScriptedMethod.method` — the method itself;
* `ScriptedMethod.configuration` — the configuration it is driven with.
-/

set_option autoImplicit false

namespace TwoStepLogin

/-- What a method will do. -/
structure ScriptedMethod where
  valid : Bool
  alternative : Option String
  extraParameters : Option (List String)
  stepCount : UInt32
  pagePrefix : String
  destroyed : Bool
  /-- Steps whose preparation fails. -/
  unprepared : List UInt32
  /-- Steps that are rejected. -/
  rejected : List UInt32
  deriving DecidableEq, Repr

namespace ScriptedMethod

/-- Attribute with the numbers of all prepared steps. -/
def preparedKey : String := "prepared"

/-- Attribute with the last submission. -/
def seenKey : String := "seen"

/-- A session with the trace of a preparation. -/
def markPrepared (session : Session) (step : UInt32) : Session :=
  session.set preparedKey ((session.get? preparedKey).getD "" ++ toString step.toNat)

/-- A session with the trace of a submission. -/
def markSeen (session : Session) (credentials : Credentials) (step : UInt32) : Session :=
  session.set seenKey
    (toString step.toNat ++ ":" ++ credentials.userName ++ ":" ++ credentials.password)

/-- The method itself. -/
def method (script : ScriptedMethod) {I : Interface} : Login.Method I where
  isValid _ := pure script.valid
  alternative _ := pure script.alternative
  prepare _ _ session step := pure (!script.unprepared.contains step, markPrepared session step)
  authenticate _ credentials _ session step :=
    pure (!script.rejected.contains step, markSeen session credentials step)
  extraParameters _ _ := pure script.extraParameters
  stepCount _ := pure script.stepCount
  page _ step := pure (script.pagePrefix ++ toString step.toNat)
  logout _ parameters := pure (parameters.firstValue? "deny").isNone
  destroy _ := pure script.destroyed

/-- The configuration it is driven with. -/
def configuration : Login.Configuration := ⟨Fixture.attributes, Fixture.metadata⟩

end ScriptedMethod

end TwoStepLogin
