import TwoStepLogin.Proofs.Login.ChallengeUse
import TwoStepLogin.Proofs.Login.DeviceFlow

/-!
# One attempt with the device

A session whose login waits for its device never asks for a password again, and the flow prepares the
device step only after a password. So a session sees at most one challenge and one response to it,
and nothing can be done with a session whose response was not accepted.

* `Login.marksOf` — what happened to the challenges of a session;
* `Login.AttemptPhase` — the invariant: all that may have happened so far;
* `Login.Stuck` — a session that waits for a device without a challenge;
* `Login.device_gets_one_attempt` — one challenge, one response, and nothing after a failure.
-/

set_option autoImplicit false

namespace TwoStepLogin.Login

/-- A workflow was started, there is a challenge. -/
def Mark.isStarted : Mark → Bool
  | .started _ => true
  | _ => false

/-- A response to a challenge was handed in. -/
def Mark.isFinished : Mark → Bool
  | .finished _ => true
  | _ => false

/-- What happened to challenges in some turns. -/
def marksOf {C S B : Type} (turns : List (Turn surroundings C S B)) : List Mark :=
  (exchangesOf turns).filterMap mark?

variable {configuration : Configuration} {c : Credentials} {p : Parameters} {s s' : Session}
  {h : List (Exchange surroundings)} {ok : Bool} {outcome : StepOutcome}

/-! ## What a step does to challenges -/

theorem PasswordChecked.marks_eq (hc : PasswordChecked c s h ok s') : h.filterMap mark? = [] := by
  cases hc <;> rfl

/-- Of looking for devices and starting a workflow, only the start leaves a mark. -/
theorem marks_of_started (query : Directory.Query) (found : query.Answer) (workflow : Workflow)
    (user : User) (applicationId sessionId : String) (answer : Except Fido.Fault Json) :
    [told query found, started configuration workflow user applicationId sessionId answer].filterMap
      mark? = (startMark workflow answer).toList := by
  rw [List.filterMap_cons, mark?_told]
  simp only [List.filterMap_cons, mark?_started, List.filterMap_nil]
  cases startMark workflow answer with
  | none => rfl
  | some mark => rfl

/-- What a preparation leaves: a challenge, the news that there is no device, or nothing at all. -/
inductive PreparationMarks (s : Session) (h : List (Exchange surroundings)) :
    Bool → Session → Prop where
  | started {s' : Session} {workflow : Workflow} : h.filterMap mark? = [.started workflow] →
      s'.startedWorkflow? = some workflow → PreparationMarks s h true s'
  | noDevice {s' : Session} : h.filterMap mark? = [.noDevice] → s'.startedWorkflow? = none →
      PreparationMarks s h true s'
  | nothing : h.filterMap mark? = [] → PreparationMarks s h false s

theorem DevicePrepared.marks (hp : DevicePrepared configuration s h ok s') :
    PreparationMarks s h ok s' := by
  cases hp with
  | unready _ => exact .nothing rfl
  | unknown _ _ _ => exact .nothing rfl
  | issued _ _ _ =>
    exact .started (marks_of_started (.findDevices _ _) (.ok _) _ _ _ _ (.ok _))
      (Session.startedWorkflow?_storeChallenge _ _ _)
  | noDevice _ _ _ _ => exact .noDevice rfl (Session.startedWorkflow?_clearPending _)
  | faulty _ _ _ hf =>
    have hmark := congrArg Option.toList (startMark_error_eq_none hf)
    exact .nothing ((marks_of_started (.findDevices _ _) (.ok _) _ _ _ _ _).trans hmark)

theorem Recorded.marks_eq {workflow : Workflow} {user : User} {accepted : Bool}
    (hr : Recorded configuration workflow user accepted h) : h.filterMap mark? = [] := by
  cases hr <;> rfl

/-- A response is handed in only to the started workflow, which is then forgotten. -/
theorem DeviceChecked.marks_eq (hd : DeviceChecked configuration p s h ok s') :
    (ok = false ∧ h = [] ∧ s' = s) ∨ ∃ workflow, s.startedWorkflow? = some workflow ∧
      h.filterMap mark? = [.finished workflow] ∧ s'.startedWorkflow? = none := by
  cases hd with
  | unfit _ => exact .inl ⟨rfl, rfl, rfl⟩
  | @judged workflow user token answer recorded hs hr =>
    refine .inr ⟨workflow, hs.started_eq, ?_, Session.startedWorkflow?_clearPending _⟩
    rw [List.filterMap_cons, mark?_finished, hr.marks_eq]

/-! ## A session without a challenge -/

/-- The login waits for a device, but there is nothing to respond to. -/
def Stuck (s : Session) : Prop := s.step = deviceStep ∧ s.startedWorkflow? = none

/-- Nothing can be submitted to such a session. -/
theorem Stuck.turn {submission : Submission} (hs : Stuck s)
    (hy : ((deviceFlow configuration).submit submission s).Yields h (outcome, s')) :
    (∃ step, outcome = .failed step) ∧ h = [] ∧ s' = s := by
  obtain ⟨hstep, hnone⟩ := hs
  cases submission with
  | credentials c p =>
    have hx : Flow.expects s (Submission.credentials c p).step = false := by
      rw [Flow.expects_eq_false_iff, hstep]
      exact .inr fun he => by cases he
    obtain ⟨rfl, rfl, rfl⟩ := submit_outOfOrder hx hy
    exact ⟨⟨_, rfl⟩, rfl, rfl⟩
  | token p =>
    cases deviceTurn_of_yields hy with
    | outOfOrder _ => exact ⟨⟨_, rfl⟩, rfl, rfl⟩
    | rejected _ hd =>
      rcases hd.marks_eq with ⟨-, rfl, rfl⟩ | ⟨workflow, hw, -⟩
      · exact ⟨⟨_, rfl⟩, rfl, rfl⟩
      · cases hnone.symm.trans hw
    | accepted _ hd =>
      obtain ⟨workflow, _, _, _, _, hsub, -⟩ := hd.of_true
      cases hnone.symm.trans hsub.started_eq

/-- Nor will it ever be possible. -/
theorem Stuck.played {turns : List (Turn surroundings Submission Session StepOutcome)}
    (hs : Stuck s) (hplay : Played (deviceFlow configuration).submit s turns s') :
    Stuck s' ∧ ∀ t ∈ turns, (∃ step, t.reply = .failed step) ∧ t.exchanges = [] ∧
      t.after = t.before := by
  induction hplay with
  | nil => exact ⟨hs, fun _ hm => absurd hm List.not_mem_nil⟩
  | @snoc turns t _ hy ih =>
    obtain ⟨hbefore, hall⟩ := ih
    have hturn := hbefore.turn hy
    refine ⟨hturn.2.2 ▸ hbefore, List.forall_mem_append.2 ⟨hall, ?_⟩⟩
    exact List.forall_mem_singleton.2 hturn

/-! ## All that may happen to one session -/

/-- What has happened to challenges, and where the session is then. -/
inductive AttemptPhase : List Mark → Session → Prop where
  | password {s : Session} : s.step = passwordStep → AttemptPhase [] s
  /-- There is a challenge to respond to. -/
  | challenged {s : Session} {workflow : Workflow} :
      s.step = deviceStep → s.startedWorkflow? = some workflow →
      AttemptPhase [.started workflow] s
  /-- There was no device to authenticate by. -/
  | deviceless {s : Session} : Stuck s → AttemptPhase [.noDevice] s
  | failed {s : Session} {workflow : Workflow} : Stuck s →
      AttemptPhase [.started workflow, .finished workflow] s
  | completed {s : Session} {workflow : Workflow} : s.completed = true →
      AttemptPhase [.started workflow, .finished workflow] s

variable {marks : List Mark}

theorem AttemptPhase.passwordTurn (ha : AttemptPhase marks s)
    (ht : PasswordTurn configuration c s h outcome s') :
    AttemptPhase (marks ++ h.filterMap mark?) s' := by
  -- Whatever is submitted in order, nothing has happened before.
  have hmarks (hx : Flow.expects s passwordStep = true) : marks = [] := by
    obtain ⟨hnot, hstep⟩ := Flow.expects_eq_true_iff.1 hx
    cases ha with
    | password _ => rfl
    | challenged hs _ => cases hs.symm.trans hstep
    | deviceless hs => cases hs.1.symm.trans hstep
    | failed hs => cases hs.1.symm.trans hstep
    | completed hc => cases hc.symm.trans hnot
  cases ht with
  | outOfOrder _ =>
    rw [List.filterMap_nil, List.append_nil]
    exact ha
  | rejected hx hc =>
    rw [hmarks hx, hc.marks_eq, hc.eq_of_user]
    exact .password (Flow.expects_eq_true_iff.1 hx).2
  | unprepared hx hc hp =>
    obtain rfl := hp.eq_of_false
    cases hp.marks with
    | nothing hm =>
      rw [hmarks hx, List.filterMap_append, hc.marks_eq, hm, hc.eq_of_user]
      exact .password (Flow.expects_eq_true_iff.1 hx).2
  | prepared hx hc hp =>
    rw [hmarks hx, List.filterMap_append, hc.marks_eq, List.nil_append, List.nil_append]
    cases hp.marks with
    | started hm hw =>
      rw [hm]
      exact .challenged rfl hw
    | noDevice hm hw =>
      rw [hm]
      exact .deviceless ⟨rfl, hw⟩

theorem AttemptPhase.deviceTurn (ha : AttemptPhase marks s)
    (ht : DeviceTurn configuration p s h outcome s') :
    AttemptPhase (marks ++ h.filterMap mark?) s' := by
  -- A response is handed in only where there is a challenge.
  have hmarks {workflow : Workflow} (hx : Flow.expects s deviceStep = true)
      (hw : s.startedWorkflow? = some workflow) : marks = [.started workflow] := by
    obtain ⟨hnot, hstep⟩ := Flow.expects_eq_true_iff.1 hx
    cases ha with
    | password hs => cases hs.symm.trans hstep
    | challenged _ hc => rw [Option.some.inj (hc.symm.trans hw)]
    | deviceless hs => cases hs.2.symm.trans hw
    | failed hs => cases hs.2.symm.trans hw
    | completed hc => cases hc.symm.trans hnot
  cases ht with
  | outOfOrder _ =>
    rw [List.filterMap_nil, List.append_nil]
    exact ha
  | rejected hx hd =>
    rcases hd.marks_eq with ⟨-, rfl, rfl⟩ | ⟨workflow, hw, hm, hnone⟩
    · rw [List.filterMap_nil, List.append_nil]
      exact ha
    · rw [hmarks hx hw, hm]
      refine .failed ⟨?_, hnone⟩
      rw [hd.eq_of_attributes]
      exact (Flow.expects_eq_true_iff.1 hx).2
  | accepted hx hd =>
    rcases hd.marks_eq with ⟨hok, -⟩ | ⟨workflow, hw, hm, -⟩
    · cases hok
    · rw [hmarks hx hw, hm]
      exact .completed rfl

theorem attemptPhase_of_played {id : String} {now : Instant}
    {turns : List (Turn surroundings Submission Session StepOutcome)}
    (hplay : Played (deviceFlow configuration).submit (Session.start id now) turns s) :
    AttemptPhase (marksOf turns) s := by
  induction hplay with
  | nil => exact .password rfl
  | @snoc turns t _ hy ih =>
    obtain ⟨command, before, h, reply, after⟩ := t
    have hmarks : marksOf (turns ++ [⟨command, before, h, reply, after⟩]) =
        marksOf turns ++ h.filterMap mark? := by
      simp [marksOf]
    rw [hmarks]
    cases command with
    | credentials c p => exact ih.passwordTurn (passwordTurn_of_yields hy)
    | token p => exact ih.deviceTurn (deviceTurn_of_yields hy)

/-- At most one challenge, and at most one response to it. -/
theorem AttemptPhase.count_le (ha : AttemptPhase marks s) :
    marks.countP Mark.isStarted ≤ 1 ∧ marks.countP Mark.isFinished ≤ 1 := by
  cases ha with
  | password _ => decide
  | challenged _ _ => exact ⟨Nat.le_refl 1, Nat.zero_le 1⟩
  | deviceless _ => decide
  | failed _ => exact ⟨Nat.le_refl 1, Nat.le_refl 1⟩
  | completed _ => exact ⟨Nat.le_refl 1, Nat.le_refl 1⟩

/-- No response is handed in with a password. -/
theorem PasswordTurn.not_finished (ht : PasswordTurn configuration c s h outcome s') :
    (h.filterMap mark?).any Mark.isFinished = false := by
  cases ht with
  | outOfOrder _ => rfl
  | rejected _ hc =>
    rw [hc.marks_eq]
    rfl
  | unprepared _ hc hp =>
    rw [List.filterMap_append, hc.marks_eq]
    cases hp.marks with
    | nothing hm =>
      rw [hm]
      rfl
  | prepared _ hc hp =>
    rw [List.filterMap_append, hc.marks_eq]
    cases hp.marks with
    | started hm _ =>
      rw [hm]
      rfl
    | noDevice hm _ =>
      rw [hm]
      rfl

/-- A response that was handed in and did not complete the login leaves the session stuck. -/
theorem DeviceTurn.stuck (ht : DeviceTurn configuration p s h outcome s')
    (hf : (h.filterMap mark?).any Mark.isFinished = true) (ho : outcome ≠ .completed) : Stuck s' := by
  cases ht with
  | outOfOrder _ => cases hf
  | rejected hx hd =>
    rcases hd.marks_eq with ⟨-, rfl, -⟩ | ⟨workflow, -, -, hnone⟩
    · cases hf
    · refine ⟨?_, hnone⟩
      rw [hd.eq_of_attributes]
      exact (Flow.expects_eq_true_iff.1 hx).2
  | accepted _ _ => exact absurd rfl ho

theorem stuck_of_finished {submission : Submission}
    (hy : ((deviceFlow configuration).submit submission s).Yields h (outcome, s'))
    (hf : (h.filterMap mark?).any Mark.isFinished = true) (ho : outcome ≠ .completed) : Stuck s' := by
  cases submission with
  | credentials c p =>
    rw [(passwordTurn_of_yields hy).not_finished] at hf
    cases hf
  | token p => exact (deviceTurn_of_yields hy).stuck hf ho

/-- Whatever is submitted to a new session, and whatever directory and server answer: over its whole
life the server issues at most one challenge for it and receives at most one response; and after a
response that did not complete the login every submission fails, asks nobody and leaves the session as
it is. -/
theorem device_gets_one_attempt {σ : Type} (configuration : Configuration)
    (others : Responder surroundings σ) (submissions : List Submission) (id : String)
    (now : Instant) (w : σ) :
    let turns := play (deviceFlow configuration).submit others submissions (Session.start id now) w
    ((marksOf turns).countP Mark.isStarted ≤ 1 ∧ (marksOf turns).countP Mark.isFinished ≤ 1) ∧
      ∀ earlier t later, turns = earlier ++ t :: later →
        (t.exchanges.filterMap mark?).any Mark.isFinished = true → t.reply ≠ .completed →
          ∀ u ∈ later, (∃ step, u.reply = .failed step) ∧ u.exchanges = [] ∧ u.after = u.before := by
  intro turns
  have hplay : Played (deviceFlow configuration).submit (Session.start id now) turns _ :=
    played_play _ _ _ _ _
  refine ⟨(attemptPhase_of_played hplay).count_le, fun earlier t later he hf hr => ?_⟩
  obtain ⟨-, hy, hlater⟩ := hplay.split he
  exact ((stuck_of_finished hy hf hr).played hlater).2

/-- A server that issues challenges but takes no new device. -/
def grudging : Responder surroundings Unit where
  respond
    | .fido (.finishRegistration ..), w => (Except.ok ⟨"denied", none⟩, w)
    | question, w => obliging.respond question w

/-- Alice's device is denied, and trying again is of no use. -/
theorem denied_device_gets_no_second_attempt :
    let turns := play (deviceFlow obligingConfiguration).submit grudging
      [.credentials ⟨"alice", "secret"⟩ .empty, .token enrollment, .token enrollment]
      (Session.start "session" ⟨0⟩) ()
    ∃ challenged denied again, turns = [challenged, denied, again] ∧
      marksOf turns = [.started .enroll, .finished .enroll] ∧
      (∃ step, again.reply = .failed step) ∧ again.exchanges = [] := by
  intro turns
  have h := (device_gets_one_attempt obligingConfiguration grudging
    [.credentials ⟨"alice", "secret"⟩ .empty, .token enrollment, .token enrollment] "session" ⟨0⟩
    ()).2
  have hsplit : turns = [turns[0]] ++ turns[1] :: [turns[2]] := rfl
  have hreply : turns[1].reply = .failed deviceStep := rfl
  obtain ⟨hfailed, hnobody, -⟩ :=
    h _ _ _ hsplit rfl (by rw [hreply]; decide) turns[2] List.mem_cons_self
  exact ⟨turns[0], turns[1], turns[2], rfl, rfl, hfailed, hnobody⟩

end TwoStepLogin.Login
