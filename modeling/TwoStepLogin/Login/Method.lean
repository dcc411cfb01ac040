import TwoStepLogin.Login.Parameters
import TwoStepLogin.Login.Session
import TwoStepLogin.Fido.Basic

/-!
# Authentication methods

A host drives any method through the steps of a login. What a method finds out once, at its start,
is handed back to it in every call; what belongs to one login lives in the session.

* `Login.Configuration` — attributes of the host and the FIDO server's configuration;
* `Login.Method` — the calls of a method, over any interface.
-/

set_option autoImplicit false

namespace TwoStepLogin.Login

/-- What a method knows after its start. -/
structure Configuration where
  attributes : Attributes
  metadata : Fido.Metadata
  deriving DecidableEq, Repr

/-- Version of the calls below. -/
def apiVersion : UInt32 := 1

/-- A method of authentication in several steps. -/
structure Method (I : Interface) where
  /-- Whether the method may be used at all. -/
  isValid : Configuration → Program I Bool
  /-- The method to use when this one may not be. -/
  alternative : Configuration → Program I (Option String)
  /-- Prepare a step before its page is shown. -/
  prepare : Configuration → Parameters → Session → UInt32 → Program I (Bool × Session)
  /-- Judge the form of a step. -/
  authenticate :
    Configuration → Credentials → Parameters → Session → UInt32 → Program I (Bool × Session)
  /-- Names of further parameters that a step carries. -/
  extraParameters : Configuration → UInt32 → Program I (Option (List String))
  /-- How many steps a login has. -/
  stepCount : Configuration → Program I UInt32
  /-- The page of a step; empty for the host's default. -/
  page : Configuration → UInt32 → Program I String
  /-- The user logs out. -/
  logout : Configuration → Parameters → Program I Bool
  /-- The host shuts down. -/
  destroy : Configuration → Program I Bool

end TwoStepLogin.Login
