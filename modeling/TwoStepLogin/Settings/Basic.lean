import TwoStepLogin.Account.Directory
import TwoStepLogin.Effect.LogSpec
import TwoStepLogin.Fido.Discovery
import TwoStepLogin.Login.DeviceMethod

/-!
# Settings

* `Settings` — everything that can be set, with `Settings.defaults`;
* `Settings.bindAddress`, `attributes`, `retryPolicy`, `logFilter` — what the settings mean.
-/

set_option autoImplicit false

namespace TwoStepLogin

namespace Settings

/-- Where the host listens. -/
structure Application where
  host : String
  port : UInt16
  deriving DecidableEq, Repr

/-- The FIDO server and the application known to it. -/
structure Server where
  serverUri : String
  applicationId : String
  requestTimeoutSeconds : UInt64
  deriving DecidableEq, Repr

/-- How the server's configuration is fetched. -/
structure Retry where
  maxAttempts : UInt32
  retryDelayMs : UInt64
  deriving DecidableEq, Repr

/-- Sessions and their cookie. -/
structure Logins where
  cookieSecure : Bool
  loginTimeoutMinutes : Int64
  deriving DecidableEq, Repr

/-- The log. -/
structure Logging where
  level : String
  deriving DecidableEq, Repr

def Application.defaults : Application := ⟨"0.0.0.0", 8080⟩

def Server.defaults : Server := ⟨"", "", 30⟩

def Retry.defaults : Retry := ⟨5, 3000⟩

def Logins.defaults : Logins := ⟨true, 10⟩

def Logging.defaults : Logging := ⟨"info"⟩

end Settings

/-- Everything that can be set. -/
structure Settings where
  application : Settings.Application
  server : Settings.Server
  retry : Settings.Retry
  logins : Settings.Logins
  logging : Settings.Logging
  users : List Directory.Seed
  deriving DecidableEq, Repr

namespace Settings

/-- The settings where nothing is set. -/
def defaults : Settings :=
  ⟨.defaults, .defaults, .defaults, .defaults, .defaults, []⟩

/-- Host and port. -/
def bindAddress (s : Settings) : String :=
  s.application.host ++ ":" ++ toString s.application.port.toNat

/-- The attributes from which the device method starts. -/
def attributes (s : Settings) : Attributes :=
  (Attributes.empty.set Login.DeviceMethod.serverUriKey s.server.serverUri).set
    Login.DeviceMethod.applicationIdKey s.server.applicationId

/-- How the FIDO server's configuration is fetched; there is always one attempt. -/
def retryPolicy (s : Settings) : Fido.RetryPolicy :=
  ⟨if s.retry.maxAttempts = 0 then 1 else s.retry.maxAttempts, s.retry.retryDelayMs⟩

/-- What the log lets through. -/
def logFilter (s : Settings) : Log.Filter := .ofSpec s.logging.level

end Settings

end TwoStepLogin
