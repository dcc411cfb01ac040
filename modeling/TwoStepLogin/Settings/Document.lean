import TwoStepLogin.Settings.Basic
import TwoStepLogin.Toml.Document
import TwoStepLogin.Toml.Record

/-!
# Settings from a TOML document

Every table and every key may be left out and then has its default; unknown keys are passed over.

* `Settings.ofValue?` — the settings of a document's table;
* `Settings.ofToml?` — the settings of a document.
-/

set_option autoImplicit false

namespace TwoStepLogin.Settings

open Toml (Value)
open Toml.Record

/-- The table `application`. -/
def Application.ofValue? (v : Value) : Option Application := do
  match ← values? ["host", "port"] v with
  | [host, port] =>
    some ⟨← read? text? Application.defaults.host host, ← read? uint16? Application.defaults.port port⟩
  | _ => none

/-- The table `u2f`. -/
def Server.ofValue? (v : Value) : Option Server := do
  match ← values? ["server_uri", "application_id", "request_timeout_seconds"] v with
  | [uri, application, timeout] =>
    some ⟨← read? text? Server.defaults.serverUri uri,
      ← read? text? Server.defaults.applicationId application,
      ← read? uint64? Server.defaults.requestTimeoutSeconds timeout⟩
  | _ => none

/-- The table `metadata`. -/
def Retry.ofValue? (v : Value) : Option Retry := do
  match ← values? ["max_attempts", "retry_delay_ms"] v with
  | [attempts, delay] =>
    some ⟨← read? uint32? Retry.defaults.maxAttempts attempts,
      ← read? uint64? Retry.defaults.retryDelayMs delay⟩
  | _ => none

/-- The table `session`. -/
def Logins.ofValue? (v : Value) : Option Logins := do
  match ← values? ["cookie_secure", "login_timeout_minutes"] v with
  | [secure, timeout] =>
    some ⟨← read? boolean? Logins.defaults.cookieSecure secure,
      ← read? int64? Logins.defaults.loginTimeoutMinutes timeout⟩
  | _ => none

/-- The table `logging`. -/
def Logging.ofValue? (v : Value) : Option Logging := do
  match ← values? ["level"] v with
  | [level] => some ⟨← read? text? Logging.defaults.level level⟩
  | _ => none

/-- A table of the array `users`. -/
def seedOfValue? (v : Value) : Option Directory.Seed := do
  match ← values? ["user_name", "user_id", "inum", "password_sha256", "devices"] v with
  | [userName, userId, inum, password, devices] =>
    some ⟨← read? text? "" userName, ← read? text? "" userId, ← read? text? "" inum,
      ← read? text? "" password, ← read? (list? text?) [] devices⟩
  | _ => none

/-- The settings of a document's table. -/
def ofValue? (v : Value) : Option Settings := do
  match ← values? ["application", "u2f", "metadata", "session", "logging", "users"] v with
  | [application, server, retry, logins, logging, users] =>
    some ⟨← read? Application.ofValue? defaults.application application,
      ← read? Server.ofValue? defaults.server server,
      ← read? Retry.ofValue? defaults.retry retry,
      ← read? Logins.ofValue? defaults.logins logins,
      ← read? Logging.ofValue? defaults.logging logging,
      ← read? (list? seedOfValue?) defaults.users users⟩
  | _ => none

/-- The settings of a document. -/
def ofToml? (text : String) : Option Settings := (Toml.parse? text).bind ofValue?

end TwoStepLogin.Settings
