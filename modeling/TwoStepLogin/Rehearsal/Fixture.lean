import TwoStepLogin.Login.Flow
import TwoStepLogin.Settings.Basic

/-!
# A place to rehearse logins

Two users stand for the two ways through the device step: `alice` has no device yet, `bob` has one.

* `Fixture.metadata` — what the rehearsed FIDO server publishes;
* `Fixture.attributes`, `Fixture.retryPolicy` — how it is found;
* `Fixture.users`, `Fixture.directory`, `Fixture.settings` — users and settings;
* `Fixture.flow` — the device method, configured for that server.
-/

set_option autoImplicit false

namespace TwoStepLogin.Fixture

/-- Address of the FIDO server. -/
def serverUri : String := "https://idp.example.com"

/-- The application that devices are enrolled for. -/
def applicationId : String := "https://app.example.com"

/-- What the server publishes. -/
def metadata : Fido.Metadata :=
  ⟨"2.0", serverUri, serverUri ++ "/restv1/fido/u2f/registration",
    serverUri ++ "/restv1/fido/u2f/authentication"⟩

/-- The attributes of the host. -/
def attributes : Attributes :=
  (Attributes.empty.set Login.DeviceMethod.serverUriKey serverUri).set
    Login.DeviceMethod.applicationIdKey applicationId

/-- A policy that does not wait for long. -/
def retryPolicy : Fido.RetryPolicy := ⟨5, 1⟩

/-- The users. -/
def users : List Directory.Seed := [
  ⟨"alice", "alice", "@!A11CE", passwordDigest "alice-password", []⟩,
  ⟨"bob", "bob", "@!B0B", passwordDigest "bob-password", [applicationId]⟩]

/-- The directory of these users. -/
def directory : Directory := .ofSeeds users

/-- Settings for the server and these users. -/
def settings : Settings :=
  { Settings.defaults with
    server := { Settings.Server.defaults with serverUri := serverUri, applicationId := applicationId }
    retry := { Settings.Retry.defaults with retryDelayMs := 1 }
    logins := { Settings.Logins.defaults with cookieSecure := false }
    users := users }

/-- The device method, configured for the server. -/
def flow : Login.Action (Except Fido.Discovery.Failure (Login.Flow Login.surroundings)) := do
  let configured ← Login.DeviceMethod.configure retryPolicy attributes
  pure (configured.map fun configuration => ⟨Login.deviceMethod, configuration⟩)

end TwoStepLogin.Fixture
