import TwoStepLogin.Proofs.Login.DeviceSteps
import TwoStepLogin.Proofs.Login.FlowSteps

/-!
# The flow of the device method

What comes of a submission when the flow takes sessions through the device method: the ends of a
flow over any method, put together with the ends of the steps of this one.

* `Login.deviceFlow` — the flow of the device method under a configuration;
* `Login.PasswordTurn` — the ends of submitting user name and password;
* `Login.DeviceTurn` — the ends of submitting the device's response.
-/

set_option autoImplicit false

namespace TwoStepLogin.Login

/-- The flow of the device method. -/
abbrev deviceFlow (configuration : Configuration) : Flow surroundings :=
  ⟨deviceMethod, configuration⟩

variable {configuration : Configuration} {c : Credentials} {p : Parameters} {s s' : Session}
  {h : List (Exchange surroundings)} {ok : Bool} {outcome : StepOutcome}

/-! ## What steps leave alone -/

/-- The password step writes nothing but the user. -/
theorem PasswordChecked.eq_of_user (hc : PasswordChecked c s h ok s') :
    s' = { s with user := s'.user } := by
  cases hc <;> rfl

/-- The preparation of the device step writes nothing but attributes. -/
theorem DevicePrepared.eq_of_attributes (hp : DevicePrepared configuration s h ok s') :
    s' = { s with attributes := s'.attributes } := by
  cases hp <;> rfl

/-- The device step writes nothing but attributes. -/
theorem DeviceChecked.eq_of_attributes (hd : DeviceChecked configuration p s h ok s') :
    s' = { s with attributes := s'.attributes } := by
  cases hd <;> rfl

/-- A preparation that fails leaves the session as it is. -/
theorem DevicePrepared.eq_of_false (hp : DevicePrepared configuration s h false s') : s' = s := by
  cases hp <;> rfl

/-- The device step keeps the challenge or drops it. -/
theorem DeviceChecked.kept_or_cleared (hd : DeviceChecked configuration p s h ok s') :
    s' = s ∨ s' = s.clearPending := by
  cases hd with
  | unfit _ => exact .inl rfl
  | judged _ _ => exact .inr rfl

theorem isAccepted_eq_true_iff {answer : Except Fido.Fault Fido.Status} :
    isAccepted answer = true ↔ ∃ status, answer = .ok status ∧ status.status = "success" := by
  cases answer with
  | error fault => simp [isAccepted]
  | ok status => simp [isAccepted, Fido.Status.isSuccess]

/-- A response is accepted only by the server, and only as the answer to the open challenge. -/
theorem DeviceChecked.of_true (hd : DeviceChecked configuration p s h true s') :
    ∃ workflow user token status recorded, Submits p s workflow user token ∧
      h = finished configuration workflow user token (.ok status) :: recorded ∧
      status.status = "success" ∧ s' = s.clearPending := by
  generalize hok : true = ok at hd
  cases hd with
  | unfit _ => cases hok
  | judged hs _ =>
    obtain ⟨status, rfl, hstatus⟩ := isAccepted_eq_true_iff.1 hok.symm
    exact ⟨_, _, _, status, _, hs, rfl, hstatus, rfl⟩

/-! ## Submissions -/

/-- The ends of submitting user name and password. -/
inductive PasswordTurn (configuration : Configuration) (c : Credentials) (s : Session) :
    List (Exchange surroundings) → StepOutcome → Session → Prop where
  | outOfOrder : Flow.expects s passwordStep = false →
      PasswordTurn configuration c s [] (.failed passwordStep) s
  | rejected {h : List (Exchange surroundings)} {s' : Session} :
      Flow.expects s passwordStep = true → PasswordChecked c s h false s' →
      PasswordTurn configuration c s h (.failed passwordStep) s'
  /-- The password is accepted, but the device step cannot begin. -/
  | unprepared {h₁ h₂ : List (Exchange surroundings)} {s₁ s₂ : Session} :
      Flow.expects s passwordStep = true → PasswordChecked c s h₁ true s₁ →
      DevicePrepared configuration s₁ h₂ false s₂ →
      PasswordTurn configuration c s (h₁ ++ h₂) (.failed deviceStep) s₂
  | prepared {h₁ h₂ : List (Exchange surroundings)} {s₁ s₂ : Session} :
      Flow.expects s passwordStep = true → PasswordChecked c s h₁ true s₁ →
      DevicePrepared configuration s₁ h₂ true s₂ →
      PasswordTurn configuration c s (h₁ ++ h₂) (.nextStep deviceStep DeviceMethod.devicePage)
        (s₂.withStep deviceStep)

/-- The ends of submitting the device's response. -/
inductive DeviceTurn (configuration : Configuration) (p : Parameters) (s : Session) :
    List (Exchange surroundings) → StepOutcome → Session → Prop where
  | outOfOrder : Flow.expects s deviceStep = false →
      DeviceTurn configuration p s [] (.failed deviceStep) s
  | rejected {h : List (Exchange surroundings)} {s' : Session} :
      Flow.expects s deviceStep = true → DeviceChecked configuration p s h false s' →
      DeviceTurn configuration p s h (.failed deviceStep) s'
  | accepted {h : List (Exchange surroundings)} {s' : Session} :
      Flow.expects s deviceStep = true → DeviceChecked configuration p s h true s' →
      DeviceTurn configuration p s h .completed (s'.withStep acknowledgementStep).complete

/-- The password step needs no preparation. -/
theorem prepare_password_yields
    (hy : (deviceMethod.prepare configuration p s passwordStep).Yields h (ok, s')) :
    h = [] ∧ ok = true ∧ s' = s := by
  change (DeviceMethod.prepare configuration s passwordStep).Yields h (ok, s') at hy
  obtain ⟨hstep, -⟩ | ⟨-, rfl, rfl, hok⟩ := prepare_yields hy
  · cases hstep
  · exact ⟨rfl, hok.2 (.inl rfl), rfl⟩

theorem prepare_device_yields
    (hy : (deviceMethod.prepare configuration p s deviceStep).Yields h (ok, s')) :
    DevicePrepared configuration s h ok s' := by
  change (DeviceMethod.prepare configuration s deviceStep).Yields h (ok, s') at hy
  obtain ⟨-, hp⟩ | ⟨hstep, -⟩ := prepare_yields hy
  · exact hp
  · exact absurd rfl hstep

theorem prepare_acknowledgement_yields
    (hy : (deviceMethod.prepare configuration p s acknowledgementStep).Yields h (ok, s')) :
    h = [] ∧ s' = s := by
  change (DeviceMethod.prepare configuration s acknowledgementStep).Yields h (ok, s') at hy
  obtain ⟨hstep, -⟩ | ⟨-, rfl, rfl, -⟩ := prepare_yields hy
  · cases hstep
  · exact ⟨rfl, rfl⟩

theorem authenticate_password_yields
    (hy : (deviceMethod.authenticate configuration c p s passwordStep).Yields h (ok, s')) :
    PasswordChecked c s h ok s' := by
  change (DeviceMethod.authenticate configuration c p s passwordStep).Yields h (ok, s') at hy
  obtain ⟨-, hc⟩ | ⟨hstep, -⟩ | ⟨hstep, -⟩ := authenticate_yields hy
  · exact hc
  · cases hstep
  · exact absurd rfl hstep

theorem authenticate_device_yields
    (hy : (deviceMethod.authenticate configuration c p s deviceStep).Yields h (ok, s')) :
    DeviceChecked configuration p s h ok s' := by
  change (DeviceMethod.authenticate configuration c p s deviceStep).Yields h (ok, s') at hy
  obtain ⟨hstep, -⟩ | ⟨-, hd⟩ | ⟨-, hstep, -⟩ := authenticate_yields hy
  · cases hstep
  · exact hd
  · exact absurd rfl hstep

/-- After the password comes the device. -/
theorem advanced_password (ha : Advanced (deviceFlow configuration) p s passwordStep h outcome s') :
    (∃ s₂, DevicePrepared configuration s h true s₂ ∧ s' = s₂.withStep deviceStep ∧
        outcome = .nextStep deviceStep DeviceMethod.devicePage) ∨
      DevicePrepared configuration s h false s' ∧ outcome = .failed deviceStep := by
  cases ha with
  | completed hc _ _ hn =>
    obtain ⟨rfl, rfl⟩ := hc
    exact absurd hn (by decide)
  | @nextStep _ _ _ _ _ _ s₂ _ hc he hp _ hg =>
    obtain ⟨rfl, rfl⟩ := hc
    obtain ⟨rfl, rfl⟩ := he
    obtain ⟨rfl, rfl⟩ := hg
    exact .inl ⟨s₂, by simpa using prepare_device_yields hp, rfl, rfl⟩
  | unprepared hc he hp _ =>
    obtain ⟨rfl, rfl⟩ := hc
    obtain ⟨rfl, rfl⟩ := he
    exact .inr ⟨prepare_device_yields hp, rfl⟩

/-- After the device there is nothing left to do. -/
theorem advanced_device (ha : Advanced (deviceFlow configuration) p s deviceStep h outcome s') :
    h = [] ∧ outcome = .completed ∧ s' = (s.withStep acknowledgementStep).complete := by
  cases ha with
  | completed hc he hp _ =>
    obtain ⟨rfl, rfl⟩ := hc
    obtain ⟨rfl, rfl⟩ := he
    obtain ⟨rfl, rfl⟩ := prepare_acknowledgement_yields hp
    exact ⟨rfl, rfl, rfl⟩
  | nextStep hc _ _ hn _ =>
    obtain ⟨rfl, rfl⟩ := hc
    exact absurd (by decide) hn
  | unprepared hc _ _ hn =>
    obtain ⟨rfl, rfl⟩ := hc
    exact absurd (by decide) hn

/-- Submitting user name and password has no other ends. -/
theorem passwordTurn_of_yields
    (hy : ((deviceFlow configuration).submitCredentials c p s).Yields h (outcome, s')) :
    PasswordTurn configuration c s h outcome s' := by
  cases submitCredentials_yields hy with
  | outOfOrder hx => exact .outOfOrder hx
  | unavailable _ hv _ => cases hv.2
  | unprepared _ _ hp => cases (prepare_password_yields hp).2.1
  | rejected hx hv hp ha =>
    obtain ⟨rfl, -⟩ := hv
    obtain ⟨rfl, -, rfl⟩ := prepare_password_yields hp
    exact .rejected hx (authenticate_password_yields ha)
  | accepted hx hv hp ha hadv =>
    obtain ⟨rfl, -⟩ := hv
    obtain ⟨rfl, -, rfl⟩ := prepare_password_yields hp
    have hc := authenticate_password_yields ha
    rw [List.nil_append, List.nil_append]
    obtain ⟨s₂, hd, rfl, rfl⟩ | ⟨hd, rfl⟩ := advanced_password hadv
    · exact .prepared hx hc hd
    · exact .unprepared hx hc hd

/-- Submitting the device's response has no other ends. -/
theorem deviceTurn_of_yields
    (hy : ((deviceFlow configuration).submitToken p s).Yields h (outcome, s')) :
    DeviceTurn configuration p s h outcome s' := by
  cases submitToken_yields hy with
  | outOfOrder hx => exact .outOfOrder hx
  | rejected hx ha => exact .rejected hx (authenticate_device_yields ha)
  | accepted hx ha hadv =>
    obtain ⟨rfl, rfl, rfl⟩ := advanced_device hadv
    rw [List.append_nil]
    exact .accepted hx (authenticate_device_yields ha)

theorem PasswordTurn.id_eq (ht : PasswordTurn configuration c s h outcome s') : s'.id = s.id := by
  cases ht with
  | outOfOrder _ => rfl
  | rejected _ hc => rw [hc.eq_of_user]
  | unprepared _ hc hp => rw [hp.eq_of_attributes, hc.eq_of_user]
  | prepared _ hc hp => rw [hp.eq_of_attributes, hc.eq_of_user]; rfl

theorem DeviceTurn.id_eq (ht : DeviceTurn configuration p s h outcome s') : s'.id = s.id := by
  cases ht with
  | outOfOrder _ => rfl
  | rejected _ hd => rw [hd.eq_of_attributes]
  | accepted _ hd => rw [hd.eq_of_attributes]; rfl

/-- A login that goes on has its user from the directory. -/
theorem PasswordTurn.user_of_nextStep {step : UInt32} {page : String}
    (ht : PasswordTurn configuration c s h (.nextStep step page) s') :
    s'.createdAt = s.createdAt ∧ ∃ user, s'.user = some user ∧
      told (.findUser c.userName) (.ok (some user)) ∈ h := by
  cases ht with
  | prepared _ hc hd =>
    rw [hd.eq_of_attributes]
    cases hc with
    | @bound user _ _ _ =>
      exact ⟨rfl, user, rfl, List.mem_append_left _ (List.mem_cons_of_mem _ List.mem_cons_self)⟩

theorem DeviceTurn.user_eq (ht : DeviceTurn configuration p s h outcome s') : s'.user = s.user := by
  cases ht with
  | outOfOrder _ => rfl
  | rejected _ hd => rw [hd.eq_of_attributes]
  | accepted _ hd => rw [hd.eq_of_attributes]; rfl

end TwoStepLogin.Login
