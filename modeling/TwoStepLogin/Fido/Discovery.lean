import TwoStepLogin.Login.Surroundings

/-!
# Finding a FIDO server's configuration

The configuration is fetched once before any login. A fault that may pass is waited out, for a
fixed time and a bounded number of attempts.

* `Fido.RetryPolicy` — how often and how long;
* `Fido.Fetched` — what one attempt means;
* `Fido.Discovery.Failure` — why no configuration was found;
* `Fido.discover` — the whole search.
-/

set_option autoImplicit false

namespace TwoStepLogin.Fido

open Log (Record)

/-- How often a fetch is tried, and the milliseconds between two attempts. Finer pauses are not needed:
settings count milliseconds in 64 bits, their default is three seconds, and nothing else makes a
policy. The pause is only named in a record and waited for; no part of the search computes with it. -/
structure RetryPolicy where
  maxAttempts : UInt32
  delay : UInt64
  deriving DecidableEq, Repr

/-- Attempts that are made at most; there is always one. -/
def RetryPolicy.attempts (policy : RetryPolicy) : Nat := max policy.maxAttempts.toNat 1

/-- What the answer to one fetch means. -/
inductive Fetched where
  | loaded (metadata : Metadata)
  | retryable (fault : Fault)
  | fatal (fault : Fault)
  deriving DecidableEq, Repr

/-- Classify the answer to one fetch. -/
def Fetched.ofAnswer : Except Fault Metadata → Fetched
  | .ok metadata => .loaded metadata
  | .error fault => if fault.isRetryable then .retryable fault else .fatal fault

/-- Why no configuration was found. -/
inductive Discovery.Failure where
  /-- A required attribute is absent or blank. -/
  | missingAttribute (key : String)
  /-- All attempts met faults that may pass. -/
  | retriesExhausted (attempts : Nat) (last : Fault)
  /-- A fault that does not pass by itself. -/
  | fatal (attempt : Nat) (fault : Fault)
  deriving DecidableEq, Repr

/-- Wording of a failure. -/
def Discovery.Failure.message : Discovery.Failure → String
  | .missingAttribute key => "missing configuration attribute: " ++ key
  | .retriesExhausted attempts last =>
    "metadata unavailable after " ++ toString attempts ++ " attempts: " ++ last.message
  | .fatal attempt fault =>
    "metadata fetch failed on attempt " ++ toString attempt ++ ": " ++ fault.message

namespace Discovery

/-- Said before an attempt. -/
def attemptRecord (attempt limit : Nat) : Record :=
  .info ("U2F. Attempting to load metadata: " ++ toString attempt ++ "/" ++ toString limit)

/-- Said when the configuration has arrived. -/
def loadedRecord (attempt : Nat) (metadata : Metadata) : Record :=
  .info ("U2F. Metadata loaded on attempt " ++ toString attempt ++ " (issuer: " ++
    metadata.issuer ++ ")")

/-- Said when it makes no sense to go on. -/
def fatalRecord (fault : Fault) : Record :=
  .error ("U2F. Metadata fetch failed permanently: " ++ fault.message)

/-- Said when no attempts are left. -/
def exhaustedRecord (attempt : Nat) (fault : Fault) : Record :=
  .error ("U2F. Metadata still unavailable after " ++ toString attempt ++ " attempts: " ++
    fault.message)

/-- Said before a pause. -/
def retryRecord (policy : RetryPolicy) (fault : Fault) : Record :=
  .warn ("U2F. Metadata fetch failed (" ++ fault.message ++ "), retrying in " ++
    toString policy.delay.toNat ++ "ms")

/-- One attempt; what follows a fault that may pass is given. -/
def attemptOnce (policy : RetryPolicy) (url : String) (attempt : Nat)
    (otherwise : Fault → Login.Action (Except Failure Metadata)) :
    Login.Action (Except Failure Metadata) := do
  Program.log (attemptRecord attempt policy.attempts)
  let answer ← Login.fido (.fetchMetadata url)
  match Fetched.ofAnswer answer with
  | .loaded metadata => do
    Program.log (loadedRecord attempt metadata)
    pure (.ok metadata)
  | .fatal fault => do
    Program.log (fatalRecord fault)
    pure (.error (.fatal attempt fault))
  | .retryable fault => otherwise fault

/-- Attempts number `attempt` and later; after it, `left` more may be made. -/
def attemptsFrom (policy : RetryPolicy) (url : String) :
    (attempt left : Nat) → Login.Action (Except Failure Metadata)
  | attempt, 0 => attemptOnce policy url attempt fun fault => do
    Program.log (exhaustedRecord attempt fault)
    pure (.error (.retriesExhausted attempt fault))
  | attempt, left + 1 => attemptOnce policy url attempt fun fault => do
    Program.log (retryRecord policy fault)
    Login.pause policy.delay
    attemptsFrom policy url (attempt + 1) left

end Discovery

/-- Fetch the configuration of the server at the given address. -/
def discover (policy : RetryPolicy) (serverUri : String) :
    Login.Action (Except Discovery.Failure Metadata) := do
  let url := metadataUrl serverUri
  Program.log (.info ("U2F. Downloading metadata from " ++ url))
  Discovery.attemptsFrom policy url 1 (policy.attempts - 1)

end TwoStepLogin.Fido
