import TwoStepLogin.Account.Basic
import TwoStepLogin.Effect.Program
import TwoStepLogin.Json.Parser
import TwoStepLogin.Json.Printer
import TwoStepLogin.Login.Attributes
import TwoStepLogin.Login.Instant
import TwoStepLogin.Login.Workflow

/-!
# Login sessions

What must be remembered between the requests of one login.

* `Session` — the user, named texts, the current step, whether all steps are done;
* `Session.bindUser` — the user is written once; another user is refused;
* `Session.storeChallenge` — a started workflow and its challenge, replacing any other;
* `Session.startedWorkflow?`, `Session.challenge?` — reading them back;
* `Session.pending` — what the page of the device step is told.
-/

set_option autoImplicit false

namespace TwoStepLogin

/-- The step that checks the password. -/
def passwordStep : UInt32 := 1

/-- The step that talks to the device. -/
def deviceStep : UInt32 := 2

/-- The step after the last, which only acknowledges the login. -/
def acknowledgementStep : UInt32 := 3

/-- One login in progress. -/
structure Session where
  id : String
  user : Option User
  attributes : Attributes
  step : UInt32
  completed : Bool
  createdAt : Instant
  deriving DecidableEq, Repr

namespace Session

/-- A session at its first step. -/
def start (id : String) (now : Instant) : Session := ⟨id, none, .empty, passwordStep, false, now⟩

/-- The identifier, unless it is empty. -/
def id? (s : Session) : Option String := if s.id.isEmpty then none else some s.id

/-- Whether the user may be written: none is bound, or this one. -/
def admits (s : Session) (user : User) : Bool :=
  match s.user with
  | none => true
  | some bound => bound == user

/-- Said when a second user is refused. -/
def refusal (s : Session) (bound user : User) : Log.Record :=
  .warn ("Session " ++ s.id ++ " already bound to user " ++ bound.userName ++ ", refusing " ++
    user.userName)

/-- Bind the session to a user; a session that is bound to a different one keeps it. -/
def bindUser {I : Interface} (s : Session) (user : User) : Program I (Bool × Session) :=
  match s.user with
  | none => pure (true, { s with user := some user })
  | some bound =>
    if bound = user then pure (true, s)
    else do
      Program.log (s.refusal bound user)
      pure (false, s)

/-- The text under a key. -/
def get? (s : Session) (key : String) : Option String := s.attributes.get? key

/-- Write a text under a key. -/
def set (s : Session) (key value : String) : Session :=
  { s with attributes := s.attributes.set key value }

/-- Forget the text under a key. -/
def remove (s : Session) (key : String) : Session :=
  { s with attributes := s.attributes.remove key }

/-- Key of the name of the started workflow. -/
def workflowKey : String := "fido_u2f_workflow"

/-- Key of the challenge of a workflow. -/
def challengeKey : Workflow → String
  | .enroll => "fido_u2f_registration_request"
  | .authenticate => "fido_u2f_authentication_request"

/-- Remember a started workflow with its challenge; one of the other kind is forgotten. -/
def storeChallenge (s : Session) (workflow : Workflow) (challenge : Json) : Session :=
  ((s.remove (challengeKey workflow.other)).set (challengeKey workflow) challenge.compact).set
    workflowKey workflow.name

/-- Forget the started workflow and both challenges. -/
def clearPending (s : Session) : Session :=
  ((s.remove (challengeKey .enroll)).remove (challengeKey .authenticate)).remove workflowKey

/-- The workflow that was started last. -/
def startedWorkflow? (s : Session) : Option Workflow := (s.get? workflowKey).bind Workflow.ofName?

/-- The stored challenge of a workflow. -/
def challenge? (s : Session) (workflow : Workflow) : Option Json :=
  (s.get? (challengeKey workflow)).bind Json.parse?

/-- Move to a step. -/
def withStep (s : Session) (step : UInt32) : Session := { s with step := step }

/-- Mark all steps as done. -/
def complete (s : Session) : Session := { s with completed := true }

/-- What the page of the device step is told. -/
structure Pending where
  workflow : Option Workflow
  registration : Option Json
  authentication : Option Json
  deriving Repr

/-- The started workflow and the stored challenges. -/
def pending (s : Session) : Pending :=
  ⟨s.startedWorkflow?, s.challenge? .enroll, s.challenge? .authenticate⟩

/-- The answer as JSON. -/
def Pending.toJson (p : Pending) : Json :=
  .object [
    ("auth_method", .ofText? (p.workflow.map Workflow.name)),
    ("registration_request", p.registration.getD .null),
    ("authentication_request", p.authentication.getD .null)]

/-! ## Reading after writing -/

theorem get?_set (s : Session) (key value other : String) :
    (s.set key value).get? other = if other = key then some value else s.get? other :=
  Attributes.get?_set _ _ _ _

theorem get?_remove (s : Session) (key other : String) :
    (s.remove key).get? other = if other = key then none else s.get? other :=
  Attributes.get?_remove _ _ _

theorem workflowKey_ne (w : Workflow) : workflowKey ≠ challengeKey w := by
  cases w <;> decide

theorem startedWorkflow?_storeChallenge (s : Session) (w : Workflow) (c : Json) :
    (s.storeChallenge w c).startedWorkflow? = some w := by
  simp [startedWorkflow?, storeChallenge, get?_set]

theorem get?_storeChallenge (s : Session) (w : Workflow) (c : Json) :
    (s.storeChallenge w c).get? (challengeKey w) = some c.compact := by
  simp [storeChallenge, get?_set, Ne.symm (workflowKey_ne w)]

theorem get?_storeChallenge_other (s : Session) (w : Workflow) (c : Json) :
    (s.storeChallenge w c).get? (challengeKey w.other) = none := by
  have h₁ : challengeKey w.other ≠ workflowKey := Ne.symm (workflowKey_ne _)
  have h₂ : challengeKey w.other ≠ challengeKey w := by cases w <;> decide
  simp [storeChallenge, get?_set, get?_remove, h₁, h₂]

theorem startedWorkflow?_clearPending (s : Session) : s.clearPending.startedWorkflow? = none := by
  simp [startedWorkflow?, clearPending, get?_remove]

theorem get?_clearPending (s : Session) (w : Workflow) :
    s.clearPending.get? (challengeKey w) = none := by
  cases w <;> simp [clearPending, get?_remove]

end Session

end TwoStepLogin
