import TwoStepLogin.Fido.Basic
import TwoStepLogin.Json.Basic

/-!
# Calls to a FIDO server

* `Fido.Call` — the five calls;
* `Fido.Call.Answer` — what each of them yields, or a fault.
-/

set_option autoImplicit false

namespace TwoStepLogin.Fido

/-- What may be asked of a server. -/
inductive Call where
  | fetchMetadata (url : String)
  | startRegistration (metadata : Metadata) (userId applicationId sessionId : String)
  | finishRegistration (metadata : Metadata) (userId token : String)
  | startAuthentication (metadata : Metadata) (userId : String) (keyHandle : Option String)
      (applicationId sessionId : String)
  | finishAuthentication (metadata : Metadata) (userId token : String)
  deriving DecidableEq, Repr

/-- What a call yields if all goes well. -/
def Call.Result : Call → Type
  | .fetchMetadata _ => Metadata
  | .startRegistration .. => Json
  | .finishRegistration .. => Status
  | .startAuthentication .. => Json
  | .finishAuthentication .. => Status

/-- The answer to a call. -/
abbrev Call.Answer (call : Call) : Type := Except Fault call.Result

namespace Call

/-- Whether a workflow is finished by the call. -/
def isFinish : Call → Bool
  | .finishRegistration .. => true
  | .finishAuthentication .. => true
  | _ => false

end Call

end TwoStepLogin.Fido
