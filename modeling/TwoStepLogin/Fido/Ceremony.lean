import TwoStepLogin.Login.Surroundings

/-!
# Device ceremonies

Registration and authentication of a device at a FIDO server, started and finished under one
published configuration.

* `Fido.Ceremony.Failure` — the server knows no device, or the call failed otherwise;
* `Fido.Ceremony.startRegistration`, `startAuthentication` — obtain a challenge;
* `Fido.Ceremony.finishRegistration`, `finishAuthentication` — have a response judged.
-/

set_option autoImplicit false

namespace TwoStepLogin.Fido.Ceremony

/-- Why a ceremony cannot go on. -/
inductive Failure where
  /-- The server has no matching device for the user. -/
  | noDevice
  /-- Any other fault of the call. -/
  | remote (fault : Fault)
  deriving DecidableEq, Repr

/-- Wording of a failure. -/
def Failure.message : Failure → String
  | .noDevice => "no matching device context on the FIDO server"
  | .remote fault => "FIDO workflow call failed: " ++ fault.message

/-- A fault in the start of an authentication. -/
def Failure.ofStart (fault : Fault) : Failure :=
  if fault.isNotFound then .noDevice else .remote fault

/-- Start to enrol a device. -/
def startRegistration (metadata : Metadata) (userId applicationId sessionId : String) :
    Login.Action (Except Failure Json) := do
  let answer ← Login.fido (.startRegistration metadata userId applicationId sessionId)
  pure (answer.mapError Failure.remote)

/-- Start to authenticate by an enrolled device. -/
def startAuthentication (metadata : Metadata) (userId : String) (keyHandle : Option String)
    (applicationId sessionId : String) : Login.Action (Except Failure Json) := do
  let answer ← Login.fido (.startAuthentication metadata userId keyHandle applicationId sessionId)
  pure (answer.mapError Failure.ofStart)

/-- Read the verdict on a response: true exactly for success. -/
def verdict (kind : String) : Except Fault Status → Login.Action (Except Failure Bool)
  | .error fault => pure (.error (.remote fault))
  | .ok status => do
    Program.log (.debug ("U2F. " ++ kind ++ " status from FIDO server: " ++ status.status))
    pure (.ok status.isSuccess)

/-- Finish to enrol a device. -/
def finishRegistration (metadata : Metadata) (userId token : String) :
    Login.Action (Except Failure Bool) := do
  let answer ← Login.fido (.finishRegistration metadata userId token)
  verdict "Registration" answer

/-- Finish to authenticate. -/
def finishAuthentication (metadata : Metadata) (userId token : String) :
    Login.Action (Except Failure Bool) := do
  let answer ← Login.fido (.finishAuthentication metadata userId token)
  verdict "Authentication" answer

end TwoStepLogin.Fido.Ceremony
