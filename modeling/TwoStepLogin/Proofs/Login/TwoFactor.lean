import TwoStepLogin.Proofs.Effect.Play
import TwoStepLogin.Proofs.Login.DeviceFlow

/-!
# Two factors

A login is completed only by someone who knows a user's password and holds that user's device. This
is shown for every run of submissions to one session, with arbitrary answers of the directory and of
the FIDO server.

* `Login.IssuesChallenge` — a password is accepted, and a challenge is issued to its user;
* `Login.AcceptsResponse` — the server accepts a response to the started workflow;
* `Login.TwoFactors` — both happened, one after the other, for the same user;
* `Login.LoginPhase` — the invariant: what a session tells about the turns so far;
* `Login.completed_login_has_two_factors` — no login is completed without them.
-/

set_option autoImplicit false

namespace TwoStepLogin.Login

/-- One submission to a session and what came of it. -/
abbrev LoginTurn := Turn surroundings Submission Session StepOutcome

/-- The directory accepts a password, resolves its user and lists devices; the workflow that fits is
started with the server, which issues a challenge. -/
def IssuesChallenge (configuration : Configuration) (user : User) (applicationId sessionId : String)
    (devices : List DeviceRegistration) (t : LoginTurn) : Prop :=
  ∃ c p challenge, t.command = .credentials c p ∧ c.userName ≠ "" ∧ c.password ≠ "" ∧
    t.exchanges = [told (.authenticate c.userName c.password) true,
      told (.findUser c.userName) (.ok (some user)),
      told (.findDevices user.inum applicationId) (.ok devices),
      started configuration (workflowFor devices) user applicationId sessionId (.ok challenge)]

/-- The submission names the workflow, and the server calls its token a success. -/
def AcceptsResponse (configuration : Configuration) (user : User) (workflow : Workflow)
    (t : LoginTurn) : Prop :=
  ∃ p token status recorded, t.command = .token p ∧
    p.firstValue? DeviceMethod.tokenField = some token ∧ token ≠ "" ∧
    p.firstValue? DeviceMethod.workflowField = some workflow.name ∧
    t.exchanges = finished configuration workflow user token (.ok status) :: recorded ∧
    status.status = "success"

/-- A turn accepts a response of the user to whom an earlier turn has issued a challenge. -/
def TwoFactors (configuration : Configuration) (user : User) (applicationId sessionId : String)
    (earlier : List LoginTurn) (t : LoginTurn) : Prop :=
  ∃ first challenged between devices, earlier = first ++ challenged :: between ∧
    IssuesChallenge configuration user applicationId sessionId devices challenged ∧
    AcceptsResponse configuration user (workflowFor devices) t

/-- What a session tells about the turns so far. -/
inductive LoginPhase (configuration : Configuration) : List LoginTurn → Session → Prop where
  | password {turns : List LoginTurn} {s : Session} :
      s.step = passwordStep → s.completed = false → LoginPhase configuration turns s
  /-- A challenge was issued, and may be used up. -/
  | challenged {first between : List LoginTurn} {t : LoginTurn} {s : Session} {user : User}
      {applicationId : String} {devices : List DeviceRegistration} :
      IssuesChallenge configuration user applicationId s.id devices t →
      s.id ≠ "" → configuration.attributes.get? DeviceMethod.applicationIdKey = some applicationId →
      s.user = some user →
      (∀ workflow, s.startedWorkflow? = some workflow → workflow = workflowFor devices) →
      s.step = deviceStep → s.completed = false →
      LoginPhase configuration (first ++ t :: between) s
  /-- There was no challenge to begin with. -/
  | unchallenged {turns : List LoginTurn} {s : Session} :
      s.startedWorkflow? = none → s.step = deviceStep → s.completed = false →
      LoginPhase configuration turns s
  | completed {turns : List LoginTurn} {s : Session} :
      (∃ t ∈ turns, t.reply = .completed) → s.completed = true → LoginPhase configuration turns s

variable {configuration : Configuration} {turns : List LoginTurn} {t : LoginTurn} {s s' : Session}

/-- More turns do not change a phase in which a session stays as it is. -/
theorem LoginPhase.idle (hp : LoginPhase configuration turns s) :
    LoginPhase configuration (turns ++ [t]) s := by
  cases hp with
  | password hs hc => exact .password hs hc
  | challenged hi hid ha hu hw hs hc =>
    rw [List.append_assoc, List.cons_append]
    exact .challenged hi hid ha hu hw hs hc
  | unchallenged hw hs hc => exact .unchallenged hw hs hc
  | completed hd hc =>
    obtain ⟨u, hu, hr⟩ := hd
    exact .completed ⟨u, List.mem_append_left _ hu, hr⟩ hc

/-- A challenge that is dropped leaves the phase. -/
theorem LoginPhase.clear (hp : LoginPhase configuration turns s) :
    LoginPhase configuration turns s.clearPending := by
  have hnone := Session.startedWorkflow?_clearPending s
  cases hp with
  | password hs hc => exact .password hs hc
  | challenged hi hid ha hu _ hs hc =>
    exact .challenged hi hid ha hu (fun w hw => by rw [hnone] at hw; cases hw) hs hc
  | unchallenged _ hs hc => exact .unchallenged hnone hs hc
  | completed hd hc => exact .completed hd hc

theorem LoginPhase.password_turn {c : Credentials} {p : Parameters}
    {h : List (Exchange surroundings)} {outcome : StepOutcome}
    (hp : LoginPhase configuration turns s) (ht : PasswordTurn configuration c s h outcome s') :
    LoginPhase configuration (turns ++ [⟨.credentials c p, s, h, outcome, s'⟩]) s' := by
  cases ht with
  | outOfOrder _ => exact hp.idle
  | rejected hx hc =>
    obtain ⟨hnot, hstep⟩ := Flow.expects_eq_true_iff.1 hx
    rw [hc.eq_of_user]
    exact .password hstep hnot
  | unprepared hx hc hd =>
    obtain ⟨hnot, hstep⟩ := Flow.expects_eq_true_iff.1 hx
    obtain rfl := hd.eq_of_false
    rw [hc.eq_of_user]
    exact .password hstep hnot
  | prepared hx hc hd =>
    obtain ⟨hnot, hstep⟩ := Flow.expects_eq_true_iff.1 hx
    cases hc with
    | bound hname hpassword hs =>
      cases hd with
      | issued hid hu ha =>
        cases hu
        refine .challenged ⟨c, p, _, rfl, hname, hpassword, rfl⟩ hid ha rfl ?_ rfl hnot
        intro workflow hw
        have hstored := Session.startedWorkflow?_storeChallenge _ _ _ ▸ hw
        exact (Option.some.inj hstored).symm
      | noDevice _ _ _ _ =>
        exact .unchallenged (Session.startedWorkflow?_clearPending _) rfl hnot

theorem LoginPhase.device_turn {p : Parameters} {h : List (Exchange surroundings)}
    {outcome : StepOutcome} (hp : LoginPhase configuration turns s)
    (ht : DeviceTurn configuration p s h outcome s') :
    LoginPhase configuration (turns ++ [⟨.token p, s, h, outcome, s'⟩]) s' := by
  cases ht with
  | outOfOrder _ => exact hp.idle
  | rejected _ hd =>
    rcases hd.kept_or_cleared with rfl | rfl
    · exact hp.idle
    · exact hp.clear.idle
  | accepted _ _ =>
    exact .completed ⟨_, List.mem_append_right _ List.mem_cons_self, rfl⟩ rfl

theorem phase_of_played_device {now : Instant} {id : String}
    (hplay : Played (deviceFlow configuration).submit (Session.start id now) turns s) :
    LoginPhase configuration turns s ∧ s.id = id := by
  induction hplay with
  | nil => exact ⟨.password rfl rfl, rfl⟩
  | @snoc turns t _ hy ih =>
    obtain ⟨command, before, h, reply, after⟩ := t
    obtain ⟨hphase, hid⟩ := ih
    cases command with
    | credentials c p =>
      have ht := passwordTurn_of_yields hy
      exact ⟨hphase.password_turn ht, ht.id_eq.trans hid⟩
    | token p =>
      have ht := deviceTurn_of_yields hy
      exact ⟨hphase.device_turn ht, ht.id_eq.trans hid⟩

theorem LoginPhase.exists_completed (hp : LoginPhase configuration turns s)
    (hc : s.completed = true) : ∃ t ∈ turns, t.reply = .completed := by
  cases hp with
  | password _ hnot => rw [hc] at hnot; cases hnot
  | challenged _ _ _ _ _ _ hnot => rw [hc] at hnot; cases hnot
  | unchallenged _ _ hnot => rw [hc] at hnot; cases hnot
  | completed ht _ => exact ht

/-- Only a challenge of the workflow of the user's devices can be answered. -/
theorem LoginPhase.challenged_of_submits {p : Parameters} {workflow : Workflow} {user : User}
    {token : String} (hp : LoginPhase configuration turns s)
    (hx : Flow.expects s deviceStep = true) (hs : Submits p s workflow user token) :
    s.id ≠ "" ∧ ∃ first challenged between applicationId devices,
      turns = first ++ challenged :: between ∧ workflow = workflowFor devices ∧
        IssuesChallenge configuration user applicationId s.id devices challenged ∧
        configuration.attributes.get? DeviceMethod.applicationIdKey = some applicationId := by
  obtain ⟨hnot, hstep⟩ := Flow.expects_eq_true_iff.1 hx
  cases hp with
  | password hs _ => rw [hs] at hstep; cases hstep
  | @challenged first between challenged _ bound applicationId devices hi hid ha hu hw _ _ =>
    obtain rfl : bound = user := Option.some.inj (hu.symm.trans hs.user_eq)
    exact ⟨hid, first, challenged, between, applicationId, devices, rfl, hw _ hs.started_eq, hi, ha⟩
  | unchallenged hnone _ _ => cases hnone.symm.trans hs.started_eq
  | completed _ hc => rw [hc] at hnot; cases hnot

/-- A session that is completed now was challenged before. -/
theorem LoginPhase.two_factors {p : Parameters} {h : List (Exchange surroundings)}
    (hp : LoginPhase configuration turns s) (ht : DeviceTurn configuration p s h .completed s') :
    s'.completed = true ∧ s.id ≠ "" ∧ ∃ user applicationId,
      TwoFactors configuration user applicationId s.id turns ⟨.token p, s, h, .completed, s'⟩ ∧
        configuration.attributes.get? DeviceMethod.applicationIdKey = some applicationId ∧
        s'.user = some user := by
  cases ht with
  | accepted hx hd =>
    obtain ⟨workflow, user, token, status, recorded, hsub, rfl, hstatus, rfl⟩ := hd.of_true
    obtain ⟨hid, first, challenged, between, applicationId, devices, rfl, rfl, hi, ha⟩ :=
      hp.challenged_of_submits hx hsub
    refine ⟨rfl, hid, user, applicationId, ⟨first, challenged, between, devices, rfl, hi, ?_⟩,
      ha, hsub.user_eq⟩
    exact ⟨p, token, status, recorded, rfl, hsub.token_eq,
      Parameters.ne_empty_of_firstValue? hsub.token_eq, hsub.workflow_eq, rfl, hstatus⟩

/-- Only the device's response completes a login. -/
theorem deviceTurn_of_completed
    (hy : ((deviceFlow configuration).submit t.command t.before).Yields t.exchanges
      (t.reply, t.after)) (hr : t.reply = .completed) :
    ∃ p, t.command = .token p ∧
      DeviceTurn configuration p t.before t.exchanges .completed t.after := by
  obtain ⟨command, s, h, reply, s'⟩ := t
  obtain rfl : reply = .completed := hr
  cases command with
  | credentials c p => cases passwordTurn_of_yields hy
  | token p => exact ⟨p, rfl, deviceTurn_of_yields hy⟩

/-- Whatever is submitted to a new session, and whatever directory and server answer: whenever a
submission completes the login, the directory has accepted a password in an earlier one and the
server a response in this one, for the same user and the same workflow; and a login is not completed
otherwise. -/
theorem completed_login_has_two_factors {σ τ : Type} {policy : Fido.RetryPolicy}
    {attributes : Attributes} {configuration : Configuration} {setup : Responder surroundings τ}
    {w₀ : τ} (hc : ((DeviceMethod.configure policy attributes).run setup w₀).value = .ok configuration)
    (others : Responder surroundings σ) (submissions : List Submission) (id : String) (now : Instant)
    (w : σ) :
    let start := Session.start id now
    let turns := play (deviceFlow configuration).submit others submissions start w
    let final := leftAfter start turns
    (∀ earlier t later, turns = earlier ++ t :: later → t.reply = .completed →
        id ≠ "" ∧ ∃ user applicationId, TwoFactors configuration user applicationId id earlier t ∧
          attributes.present? DeviceMethod.applicationIdKey = some applicationId ∧
          t.after.user = some user ∧ final.user = some user) ∧
      (final.completed = true → ∃ t ∈ turns, t.reply = .completed) := by
  intro start turns final
  have hplay : Played (deviceFlow configuration).submit start turns final := played_play _ _ _ _ _
  have hy := Program.yields_run setup (DeviceMethod.configure policy attributes) w₀
  rw [hc] at hy
  obtain ⟨named, hpresent, hconfigured⟩ := applicationId_of_configure hy
  refine ⟨fun earlier t later he hr => ?_, fun hdone => ?_⟩
  · obtain ⟨hbefore, hyt, hlater⟩ := hplay.split he
    obtain ⟨hphase, rfl⟩ := phase_of_played_device hbefore
    obtain ⟨p, hp, ht⟩ := deviceTurn_of_completed hyt hr
    obtain ⟨hdone, hid, user, applicationId, hfactors, happ, huser⟩ := hphase.two_factors ht
    rw [← hp, ← hr] at hfactors
    have hfinal : final = t.after := eq_of_played_completed hdone hlater
    refine ⟨hid, user, applicationId, hfactors, ?_, huser, hfinal ▸ huser⟩
    rw [hpresent, ← hconfigured, happ]
  · exact (phase_of_played_device hplay).1.exists_completed hdone

/-- A login by which a device is enrolled. -/
theorem enrollment_has_two_factors :
    let turns := play (deviceFlow obligingConfiguration).submit obliging
      [.credentials ⟨"alice", "secret"⟩ .empty, .token enrollment] (Session.start "session" ⟨0⟩) ()
    ∃ challenged t user applicationId, turns = [challenged, t] ∧ t.reply = .completed ∧
      TwoFactors obligingConfiguration user applicationId "session" [challenged] t := by
  intro turns
  have h := completed_login_has_two_factors configure_obliging obliging
    [.credentials ⟨"alice", "secret"⟩ .empty, .token enrollment] "session" ⟨0⟩ ()
  obtain ⟨-, user, applicationId, hf, -⟩ := h.1 [turns[0]] turns[1] [] rfl rfl
  exact ⟨turns[0], turns[1], user, applicationId, rfl, rfl, hf⟩

end TwoStepLogin.Login
