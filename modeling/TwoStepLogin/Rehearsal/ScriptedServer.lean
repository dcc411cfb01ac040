import TwoStepLogin.Fido.Call
import TwoStepLogin.Rehearsal.Fixture

/-!
# A scripted FIDO server

* `ScriptedServer` — what the server will answer;
* `ScriptedServer.answer` — its answer to a call, and the script afterwards;
* `Fido.Call.summary` — a call in one line.
-/

set_option autoImplicit false

namespace TwoStepLogin

open Fido (Call Fault Metadata Status)

/-- A call in one line: its name and its arguments, joined by colons. -/
def Fido.Call.summary : Call → String
  | .fetchMetadata url => "fetch_metadata:" ++ url
  | .startRegistration _ userId applicationId sessionId =>
    "start_registration:" ++ userId ++ ":" ++ applicationId ++ ":" ++ sessionId
  | .finishRegistration _ userId token => "finish_registration:" ++ userId ++ ":" ++ token
  | .startAuthentication _ userId _ applicationId sessionId =>
    "start_authentication:" ++ userId ++ ":" ++ applicationId ++ ":" ++ sessionId
  | .finishAuthentication _ userId token => "finish_authentication:" ++ userId ++ ":" ++ token

/-- What a server answers to the calls of one workflow. -/
structure ScriptedServer.Part where
  startFault : Option Fault
  finishFault : Option Fault
  /-- The verdict, unless the finish fails. -/
  status : String
  deriving DecidableEq, Repr

/-- What a server will answer. -/
structure ScriptedServer where
  /-- The next answers to fetches; the fixture's configuration is served after them. -/
  fetches : List (Except Fault Metadata)
  enrollment : ScriptedServer.Part
  authentication : ScriptedServer.Part

namespace ScriptedServer

/-- All goes well. -/
def Part.willing : Part := ⟨none, none, "success"⟩

/-- A server with which all goes well. -/
def willing : ScriptedServer := ⟨[], .willing, .willing⟩

/-- The part for a workflow. -/
def part (s : ScriptedServer) : Workflow → Part
  | .enroll => s.enrollment
  | .authenticate => s.authentication

/-- Change the part for a workflow. -/
def modify (s : ScriptedServer) (change : Part → Part) : Workflow → ScriptedServer
  | .enroll => { s with enrollment := change s.enrollment }
  | .authenticate => { s with authentication := change s.authentication }

/-- The challenge for a registration. -/
def registrationChallenge (metadata : Metadata) (userId applicationId : String) : Json :=
  .object [
    ("authenticateRequests", .array []),
    ("registerRequests", .array [.object [
      ("appId", .string applicationId), ("challenge", .string ("reg-challenge-" ++ userId)),
      ("version", .string metadata.version)]])]

/-- The challenge for an authentication. -/
def authenticationChallenge (metadata : Metadata) (userId : String) (keyHandle : Option String)
    (applicationId : String) : Json :=
  .object [("authenticateRequests", .array [.object [
    ("appId", .string applicationId), ("challenge", .string ("auth-challenge-" ++ userId)),
    ("keyHandle", .string (keyHandle.getD "kh-1")), ("version", .string metadata.version)]])]

/-- A fault if there is one. -/
def orFault {α : Type} (fault : Option Fault) (a : α) : Except Fault α :=
  match fault with
  | some fault => .error fault
  | none => .ok a

/-- The verdict of a part. -/
def Part.verdict (p : Part) : Except Fault Status := orFault p.finishFault ⟨p.status, none⟩

/-- The answer to a call, and the script afterwards. -/
def answer : (call : Call) → ScriptedServer → call.Answer × ScriptedServer
  | .fetchMetadata _, s =>
    match s.fetches with
    | [] => (.ok Fixture.metadata, s)
    | next :: rest => (next, { s with fetches := rest })
  | .startRegistration metadata userId applicationId _, s =>
    (orFault s.enrollment.startFault (registrationChallenge metadata userId applicationId), s)
  | .finishRegistration .., s => (s.enrollment.verdict, s)
  | .startAuthentication metadata userId keyHandle applicationId _, s =>
    (orFault s.authentication.startFault
      (authenticationChallenge metadata userId keyHandle applicationId), s)
  | .finishAuthentication .., s => (s.authentication.verdict, s)

end ScriptedServer

end TwoStepLogin
