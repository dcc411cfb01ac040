import TwoStepLogin.Number.Decimal
import TwoStepLogin.Settings.Basic
import TwoStepLogin.Text.Lines

/-!
# Settings from the environment

* `Settings.Environment` — the variables of the process;
* `Settings.override` — put a variable in the place of a setting;
* `Settings.withEnvironment` — all overrides;
* `Settings.assignments` — the variables that a file of assignments sets;
* `Settings.applyAssignments` — set them, unless the system refuses one.
-/

set_option autoImplicit false

namespace TwoStepLogin.Settings

/-- The variables of the process that can be read as text. One whose value is no Unicode is passed over
like one that is not set, so that it does not occur here. -/
abbrev Environment := Attributes

/-- The value of a variable in the place of a setting: the setting stays where the variable is not set
or cannot be read. -/
def override {α : Type} (environment : Environment) (name : String) (read? : String → Option α)
    (setting : α) : α :=
  ((environment.get? name).bind read?).getD setting

/-- The names of the variables that are looked at. -/
def variableNames : List String :=
  ["HOST", "PORT", "U2F_SERVER_URI", "U2F_APPLICATION_ID", "METADATA_MAX_ATTEMPTS",
    "METADATA_RETRY_DELAY_MS", "SESSION_COOKIE_SECURE", "LOGIN_TIMEOUT_MINUTES", "RUST_LOG",
    "U2F_SECRETS_DIR"]

/-- The settings with the variables of the environment in their places. -/
def withEnvironment (s : Settings) (environment : Environment) : Settings :=
  { s with
    application :=
      ⟨override environment "HOST" some s.application.host,
       override environment "PORT" Decimal.uint16? s.application.port⟩
    server :=
      ⟨override environment "U2F_SERVER_URI" some s.server.serverUri,
       override environment "U2F_APPLICATION_ID" some s.server.applicationId,
       s.server.requestTimeoutSeconds⟩
    retry :=
      ⟨override environment "METADATA_MAX_ATTEMPTS" Decimal.uint32? s.retry.maxAttempts,
       override environment "METADATA_RETRY_DELAY_MS" Decimal.uint64? s.retry.retryDelayMs⟩
    logins :=
      ⟨override environment "SESSION_COOKIE_SECURE" Decimal.boolean? s.logins.cookieSecure,
       override environment "LOGIN_TIMEOUT_MINUTES" Decimal.int64? s.logins.loginTimeoutMinutes⟩
    logging := ⟨override environment "RUST_LOG" some s.logging.level⟩ }

/-- Name and value of every line with an equals sign, without the blanks around them. -/
def assignments (text : String) : List (String × String) :=
  (Text.lines text).filterMap fun line =>
    (Text.splitOnce '=' line).map fun (name, value) =>
      (String.ofList (Text.trimChars name), String.ofList (Text.trimChars value))

/-- Whether the system takes a variable: its name is not empty and holds no equals sign, and neither
name nor value holds a NUL. -/
def isVariable (name value : String) : Bool :=
  !name.isEmpty && !name.toList.contains '=' && !name.toList.contains '\x00' &&
    !value.toList.contains '\x00'

/-- Set the variables in order; the first that the system refuses is reported. -/
def applyAssignments : List (String × String) → Environment → Except String Environment
  | [], environment => .ok environment
  | (name, value) :: rest, environment =>
    if isVariable name value then applyAssignments rest (environment.set name value)
    else .error name

end TwoStepLogin.Settings
