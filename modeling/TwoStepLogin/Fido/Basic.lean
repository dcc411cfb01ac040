/-!
# FIDO servers

A FIDO server publishes where its two workflows live, issues challenges and judges the signed
responses to them. Challenges are opaque.

* `Fido.Metadata` — what a server publishes, and `Fido.metadataUrl`, where it does so;
* `Fido.Status` — the verdict on a signed response;
* `Fido.Fault` — why a call has no good answer;
* `Fido.Call` — what may be asked of a server.
-/

set_option autoImplicit false

namespace TwoStepLogin.Fido

/-- The configuration that a server publishes. -/
structure Metadata where
  version : String
  issuer : String
  registrationEndpoint : String
  authenticationEndpoint : String
  deriving DecidableEq, Repr

/-- The verdict on a signed response. -/
structure Status where
  status : String
  challenge : Option String
  deriving DecidableEq, Repr

/-- Only the exact word counts as success. -/
def Status.isSuccess (s : Status) : Bool := s.status == "success"

/-- Path of the published configuration below the server's address. -/
def metadataPath : String := "/.well-known/fido-u2f-configuration"

/-- Drop all slashes at the end. -/
def trimSlashes (cs : List Char) : List Char := (cs.reverse.dropWhile fun c => c == '/').reverse

/-- Where the server at the given address publishes its configuration. -/
def metadataUrl (serverUri : String) : String :=
  String.ofList (trimSlashes serverUri.toList) ++ metadataPath

/-- Why a call has no good answer. -/
inductive Fault where
  /-- The server answered with another status than success. -/
  | status (code : UInt16) (message : String)
  /-- No response was produced. -/
  | transport (message : String)
  /-- The response could not be understood. -/
  | invalidResponse (message : String)
  deriving DecidableEq, Repr

namespace Fault

/-- Wording of a fault. -/
def message : Fault → String
  | .status code text => "FIDO server returned status " ++ toString code.toNat ++ ": " ++ text
  | .transport text => "FIDO transport failure: " ++ text
  | .invalidResponse text => "invalid FIDO server response: " ++ text

/-- The server is overloaded for the moment. -/
def isServiceUnavailable : Fault → Bool
  | .status code _ => code == 503
  | _ => false

/-- The server knows no matching device. -/
def isNotFound : Fault → Bool
  | .status code _ => code == 404
  | _ => false

/-- Whether the same call may succeed later. -/
def isRetryable : Fault → Bool
  | .transport _ => true
  | fault => fault.isServiceUnavailable

theorem isRetryable_iff (f : Fault) :
    f.isRetryable = true ↔ (∃ t, f = .transport t) ∨ ∃ t, f = .status 503 t := by
  cases f <;> simp [isRetryable, isServiceUnavailable]

theorem isNotFound_iff (f : Fault) : f.isNotFound = true ↔ ∃ t, f = .status 404 t := by
  cases f <;> simp [isNotFound]

end Fault

end TwoStepLogin.Fido
