import TwoStepLogin.Host.Message
import TwoStepLogin.Host.SessionTable
import TwoStepLogin.Login.Flow

/-!
# Serving logins

A host keeps the logins in progress and takes them through a flow, one request after the other. A
login begins with its password form, which always starts a new session; it ends with the first
submission that is not followed by another step.

* `Host.Service` — the flow, the sessions and the cookies of a host;
* `Host.Arrival` — a request with the identifier and the times at hand when it arrives;
* `Host.Service.serve` — the response to it, and the host afterwards;
* `Host.Service.serveAll` — responses to requests in sequence.
-/

set_option autoImplicit false

namespace TwoStepLogin.Host

open Login (Flow StepOutcome)

/-- A host of logins. -/
structure Service (I : Interface) where
  flow : Flow I
  sessions : SessionTable
  jar : CookieJar

/-- A request, and what is at hand when it arrives. -/
structure Arrival where
  request : Request
  /-- An identifier for a new session. -/
  freshId : String
  /-- When the new session is made. -/
  created : Instant
  /-- When the sessions are looked through. -/
  now : Instant
  deriving DecidableEq, Repr

namespace Service

variable {I : Interface}

/-- The same host with other sessions. -/
def withSessions (s : Service I) (sessions : SessionTable) : Service I :=
  { s with sessions := sessions }

/-- Forget a session. -/
def forget (s : Service I) (id : String) : Service I := s.withSessions (s.sessions.remove id)

/-- There is no such login. -/
def noSession : Response :=
  .json 401 none (problem "no_session" "No login in progress")

/-- The login is at another step. -/
def wrongStep : Response :=
  .json 409 none (problem "wrong_step" "Login is not waiting for a U2F device")

/-- Whether a session waits for its device. -/
def awaitsDevice (session : Session) : Bool := !session.completed && session.step == deviceStep

/-- The response to a submission. A login that does not go on is forgotten. -/
def conclude (s : Service I) (id : String) (user : Option String) :
    StepOutcome → Program I (Response × Service I)
  | .nextStep step page => do
    Program.log (.debug ("Session " ++ id ++ " advanced to step " ++ toString step.toNat))
    pure (.json 200 (some (s.jar.session id)) (StepAnswer.nextStep step page).toJson, s)
  | .completed => do
    Program.log (.info ("Session " ++ id ++ " authenticated for " ++ user.getD "unknown user"))
    pure (.json 200 (some s.jar.expired) (StepAnswer.authenticated user).toJson, s.forget id)
  | .failed step => do
    Program.log (.warn ("Session " ++ id ++ " failed at step " ++ toString step.toNat))
    pure (.json 401 (some s.jar.expired) (StepAnswer.failed step).toJson, s.forget id)

/-- The name of the user of a session. -/
def userName? (session : Session) : Option String := session.user.map User.userName

/-- Submit something to the session of a handle. -/
def submit (s : Service I) (id : String) (handle : Handle)
    (submission : Session → Program I (StepOutcome × Session)) : Program I (Response × Service I) :=
  match s.sessions.session? handle with
  | none => pure (noSession, s)
  | some session => do
    let (outcome, session) ← submission session
    (s.withSessions (s.sessions.write handle session)).conclude id (userName? session) outcome

/-- The session that a request belongs to. -/
def current (s : Service I) (a : Arrival) : Program I (Option (String × Handle) × Service I) :=
  match a.request.sessionId? with
  | none => pure (none, s)
  | some id => do
    let (found, sessions) ← s.sessions.find id a.now
    pure (found.map fun handle => (id, handle), s.withSessions sessions)

/-- The credentials of a form. -/
def credentials (parameters : Parameters) : Credentials :=
  ⟨(parameters.firstValue? "username").getD "", (parameters.firstValue? "password").getD ""⟩

/-- Forget the session that a request belongs to. -/
def forgetPrevious (s : Service I) (a : Arrival) : Service I :=
  match a.request.sessionId? with
  | none => s
  | some id => s.forget id

/-- Submit user name and password to a new session, which takes the place of an older one. -/
def login (s : Service I) (a : Arrival) (fields : List (String × String)) :
    Program I (Response × Service I) := do
  let s := s.forgetPrevious a
  let parameters := Parameters.ofPairs fields
  let (handle, sessions) ← s.sessions.create a.freshId a.created a.now
  (s.withSessions sessions).submit a.freshId handle
    (s.flow.submitCredentials (credentials parameters) parameters)

/-- Show the challenge of a session that waits for its device. -/
def challenge (s : Service I) (a : Arrival) : Program I (Response × Service I) := do
  let (found, s) ← s.current a
  match found.bind fun login => s.sessions.session? login.2 with
  | none => pure (noSession, s)
  | some session =>
    if awaitsDevice session then pure (.json 200 none session.pending.toJson, s)
    else pure (wrongStep, s)

/-- Submit the device's response. -/
def device (s : Service I) (a : Arrival) (fields : List (String × String)) :
    Program I (Response × Service I) := do
  let (found, s) ← s.current a
  match found with
  | none => pure (noSession, s)
  | some (id, handle) => s.submit id handle (s.flow.submitToken (Parameters.ofPairs fields))

/-- Said of a session that its user left. -/
def removedRecord (id : String) : Log.Record := .debug ("Removed login session " ++ id)

/-- Forget the session and tell the method. -/
def logout (s : Service I) (a : Arrival) (fields : List (String × String)) :
    Program I (Response × Service I) := do
  match a.request.sessionId? with
  | none => pure ()
  | some id => Program.log (removedRecord id)
  let s := s.forgetPrevious a
  let accepted ← s.flow.logout (Parameters.ofPairs fields)
  let word := if accepted then "logged_out" else "logout_refused"
  pure (.json 200 (some s.jar.expired) (.object [("status", .string word)]), s)

/-- Go on with the fields of the form, if it is accepted. -/
def withForm (s : Service I) (a : Arrival)
    (page : List (String × String) → Program I (Response × Service I)) :
    Program I (Response × Service I) :=
  match a.request.form with
  | .error fault => pure (.refusedForm fault, s)
  | .ok fields => page fields

/-- The fields of a form that need not be accepted. -/
def optionalFields (r : Request) : List (String × String) :=
  match r.form with
  | .error _ => []
  | .ok fields => fields

/-- The response to a request. -/
def serve (s : Service I) (a : Arrival) : Program I (Response × Service I) :=
  match a.request.route? with
  | none => pure (.notFound, s)
  | some .health => pure (.json 200 none Health.current.toJson, s)
  | some .challenge => s.challenge a
  | some .login => s.withForm a (s.login a)
  | some .device => s.withForm a (s.device a)
  | some .logout => s.logout a (optionalFields a.request)

/-- The responses to requests in sequence. -/
def serveAll (s : Service I) : List Arrival → Program I (List Response × Service I)
  | [] => pure ([], s)
  | a :: rest => do
    let (response, s) ← s.serve a
    let (responses, s) ← s.serveAll rest
    pure (response :: responses, s)

end Service

end TwoStepLogin.Host
