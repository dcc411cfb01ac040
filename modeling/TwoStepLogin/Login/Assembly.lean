import TwoStepLogin.Login.Flow
import TwoStepLogin.Settings.Basic

/-!
# Putting a login together

* `Login.assemble` — the device method, configured by the settings, as a flow that is ready;
* `Login.assemblyFailure` — wording for the case that it cannot be configured.
-/

set_option autoImplicit false

namespace TwoStepLogin.Login

/-- Wording of a failed assembly. -/
def assemblyFailure (failure : Fido.Discovery.Failure) : String :=
  "U2F plugin initialization failed: " ++ failure.message

/-- Configure the device method by the settings. No login is possible without its flow. -/
def assemble (settings : Settings) : Action (Except Fido.Discovery.Failure (Flow surroundings)) := do
  let policy := settings.retryPolicy
  Program.log (.info "🏭 Starting authentication service factory...")
  Program.log (.info ("   └─ FIDO server: " ++ settings.server.serverUri ++
    " (metadata attempts: " ++ toString policy.maxAttempts.toNat ++ ", delay: " ++
    toString policy.delay.toNat ++ "ms)"))
  Program.log (.info ("   └─ Application id: " ++ settings.server.applicationId))
  let configured ← DeviceMethod.configure policy settings.attributes
  match configured with
  | .error failure => pure (.error failure)
  | .ok configuration => do
    let count ← deviceMethod.stepCount configuration
    Program.log (.info ("✅ U2F authentication configured (" ++ toString count.toNat ++
      " steps, metadata version " ++ configuration.metadata.version ++ ")"))
    pure (.ok ⟨deviceMethod, configuration⟩)

end TwoStepLogin.Login
