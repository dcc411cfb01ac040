import TwoStepLogin.Host.Service
import TwoStepLogin.Login.Assembly
import TwoStepLogin.Settings.Load

/-!
# Starting a host

A host loads its settings, finds its FIDO server and only then listens.

* `Host.Startup.Failure` — why a host does not start, with its report and its exit code;
* `Host.Startup.service` — the host that the settings describe, or the reason why there is none;
* `Host.Startup.banner` — what is written to the terminal before it listens.

The report on settings that cannot be loaded ends before the wording of the cause, which is left out
where they are loaded.
-/

set_option autoImplicit false

namespace TwoStepLogin.Host.Startup

/-- Why a host does not start. -/
inductive Failure where
  | settings (failure : Settings.Failure)
  | login (failure : Fido.Discovery.Failure)
  /-- Sessions cannot be kept for so long. -/
  | timeout
  /-- The system does not let the host listen. -/
  | listening (cause : String)

/-- Blanks in front of every further line of a cause. -/
def indented (first further : String) (cause : String) : List String :=
  match (Text.splitOn '\n' cause.toList).map String.ofList with
  | [] => [first]
  | line :: lines => (first ++ line) :: lines.map fun line => further ++ line

/-- Causes with their numbers, from the given one. -/
def numbered : Nat → List String → List String
  | _, [] => []
  | n, cause :: causes =>
    indented ("    " ++ toString n ++ ": ") "       " cause ++ numbered (n + 1) causes

/-- Causes as lines; a single one has no number. -/
def causeLines : List String → List String
  | [] => []
  | [cause] => "" :: "Caused by:" :: indented "    " "    " cause
  | causes => "" :: "Caused by:" :: numbered 0 causes

/-- A report of what went wrong and its causes, the outermost first. -/
def report (summary : String) (causes : List String) : List String :=
  ("Error: " ++ summary) :: causeLines causes

namespace Failure

/-- Whether the program is aborted in the middle. -/
def isAbort : Failure → Bool
  | .settings (.refusedVariable _) => true
  | .timeout => true
  | _ => false

/-- The exit code. -/
def exitCode (f : Failure) : UInt8 := if f.isAbort then 101 else 1

/-- The lines of the report; a program that is aborted makes none. -/
def reportLines : Failure → List String
  | .settings (.refusedVariable _) => []
  | .settings _ => report "Failed to load settings" []
  | .login failure =>
    report "Failed to initialize U2F authentication" [Login.assemblyFailure failure, failure.message]
  | .timeout => []
  | .listening cause => report "HTTP server failed" [cause]

end Failure

/-- A host with empty sessions, unless they cannot be kept for so long. -/
def withoutSessions {I : Interface} (settings : Settings) (flow : Login.Flow I) :
    Except Failure (Service I) :=
  match SessionTable.ofMinutes? settings.logins.loginTimeoutMinutes,
    CookieJar.ofMinutes? settings.logins.cookieSecure settings.logins.loginTimeoutMinutes with
  | some sessions, some jar => .ok ⟨flow, sessions, jar⟩
  | _, _ => .error .timeout

/-- The host that the settings describe. -/
def service (settings : Settings) :
    Login.Action (Except Failure (Service Login.surroundings)) := do
  match ← Login.assemble settings with
  | .error failure => pure (.error (.login failure))
  | .ok flow => pure (withoutSessions settings flow)

/-- What is written to the terminal before the host listens. -/
def banner (settings : Settings) : List String := [
  "Starting U2F step authentication on http://" ++ settings.bindAddress,
  "FIDO U2F server: " ++ settings.server.serverUri,
  "Application id:  " ++ settings.server.applicationId,
  "",
  "Login endpoints:",
  "  POST /auth/login      - Step 1: username and password",
  "  GET  /auth/u2f/login  - Step 2: pending U2F challenge",
  "  POST /auth/u2f/login  - Step 2: authMethod and tokenResponse",
  "  POST /auth/logout     - Drop the login session",
  "",
  "System endpoints:",
  "  GET  /ping            - Health check"]

/-- Said when a host stops and its method does not let go. -/
def heldRecord : Log.Record := .warn "U2F plugin did not release its resources cleanly"

end TwoStepLogin.Host.Startup
