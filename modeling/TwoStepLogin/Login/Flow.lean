import TwoStepLogin.Login.Method
import TwoStepLogin.Text.Quoted

/-!
# Driving a login

A flow takes a session through the steps of a method. It refuses submissions out of order, prepares
each next step, and marks the session completed after the last one.

* `Login.StepOutcome` — what a submission leads to;
* `Login.Flow` — a method with its configuration;
* `Login.Flow.submitCredentials`, `Login.Flow.submitToken` — the two submissions.
-/

set_option autoImplicit false

namespace TwoStepLogin.Login

/-- What a submission leads to. -/
inductive StepOutcome where
  /-- The step is accepted, the next one is prepared. -/
  | nextStep (step : UInt32) (page : String)
  /-- All steps are done. -/
  | completed
  /-- This step was rejected or submitted out of order. -/
  | failed (step : UInt32)
  deriving DecidableEq, Repr

/-- A method together with its configuration. -/
structure Flow (I : Interface) where
  method : Method I
  configuration : Configuration

namespace Flow

variable {I : Interface}

/-- Whether a submission for this step is in order. -/
def expects (session : Session) (step : UInt32) : Bool :=
  !session.completed && session.step == step

/-- Said when a submission is out of order. -/
def outOfOrderRecord (session : Session) (step : UInt32) : Log.Record :=
  .warn ("Rejected submission for step " ++ toString step.toNat ++ "; session is at step " ++
    toString session.step.toNat ++ " (completed: " ++ toString session.completed ++ ")")

/-- Go on after a step that was accepted: prepare the next one, or finish the login. -/
def advance (flow : Flow I) (parameters : Parameters) (session : Session) (finished : UInt32) :
    Program I (StepOutcome × Session) := do
  let next := finished + 1
  let count ← flow.method.stepCount flow.configuration
  let extra ← flow.method.extraParameters flow.configuration next
  match extra with
  | none => pure ()
  | some names =>
    Program.log (.debug ("Step " ++ toString next.toNat ++ " carries extra parameters: " ++
      Quoted.list names))
  let (prepared, session) ← flow.method.prepare flow.configuration parameters session next
  if count ≤ finished then do
    if prepared then pure ()
    else
      Program.log (.warn ("Acknowledgement step " ++ toString next.toNat ++ " was not accepted"))
    Program.log (.info ("Login completed after " ++ toString count.toNat ++ " steps"))
    pure (.completed, (session.withStep next).complete)
  else if prepared then do
    let session := session.withStep next
    let page ← flow.method.page flow.configuration next
    pure (.nextStep next page, session)
  else pure (.failed next, session)

/-- Submit user name and password. -/
def submitCredentials (flow : Flow I) (credentials : Credentials) (parameters : Parameters)
    (session : Session) : Program I (StepOutcome × Session) := do
  if expects session passwordStep then do
    let valid ← flow.method.isValid flow.configuration
    if valid then do
      let (prepared, session) ←
        flow.method.prepare flow.configuration parameters session passwordStep
      if prepared then do
        let (accepted, session) ←
          flow.method.authenticate flow.configuration credentials parameters session passwordStep
        if accepted then flow.advance parameters session passwordStep
        else pure (.failed passwordStep, session)
      else pure (.failed passwordStep, session)
    else do
      let alternative ← flow.method.alternative flow.configuration
      Program.log (.warn ("Authentication method unavailable, alternative: " ++
        Quoted.optional alternative))
      pure (.failed passwordStep, session)
  else do
    Program.log (outOfOrderRecord session passwordStep)
    pure (.failed passwordStep, session)

/-- Submit the device's signed response. -/
def submitToken (flow : Flow I) (parameters : Parameters) (session : Session) :
    Program I (StepOutcome × Session) := do
  if expects session deviceStep then do
    let (accepted, session) ←
      flow.method.authenticate flow.configuration .blank parameters session deviceStep
    if accepted then flow.advance parameters session deviceStep
    else pure (.failed deviceStep, session)
  else do
    Program.log (outOfOrderRecord session deviceStep)
    pure (.failed deviceStep, session)

/-- The page of a step. -/
def page (flow : Flow I) (step : UInt32) : Program I String :=
  flow.method.page flow.configuration step

/-- The user logs out. -/
def logout (flow : Flow I) (parameters : Parameters) : Program I Bool :=
  flow.method.logout flow.configuration parameters

/-- The host shuts down. -/
def destroy (flow : Flow I) : Program I Bool := flow.method.destroy flow.configuration

end Flow

end TwoStepLogin.Login
