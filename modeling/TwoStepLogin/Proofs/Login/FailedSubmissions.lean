import TwoStepLogin.Proofs.Login.Footprint

/-!
# Failed submissions leave no debris

A submission can fail in many places, some of them after part of the work is done. What it may leave
behind is little: a password that was confirmed binds the session to its user even if the device step
could not be prepared, and a response that was handed in uses up its challenge. Nothing else is changed,
and the directory is not written to.

* `Login.Confirms` — a password is confirmed, for a user;
* `Login.PasswordTurn.debris`, `Login.DeviceTurn.debris` — what one failed submission leaves;
* `Login.failed_submissions_leave_no_debris` — from any session, whatever is answered.
-/

set_option autoImplicit false

namespace TwoStepLogin.Login

/-- The directory accepts the password and names the user. -/
def Confirms (c : Credentials) (h : List (Exchange surroundings)) (user : User) : Prop :=
  told (.authenticate c.userName c.password) true ∈ h ∧
    told (.findUser c.userName) (.ok (some user)) ∈ h

variable {configuration : Configuration} {c : Credentials} {p : Parameters} {s s' : Session}
  {h : List (Exchange surroundings)} {step : UInt32}

/-! ## The password -/

/-- A password step that fails leaves the session as it is. -/
theorem PasswordChecked.eq_of_false (hc : PasswordChecked c s h false s') : s' = s := by
  cases hc <;> rfl

/-- A password step that succeeds writes the user whose password is confirmed, and only where there
was none. -/
theorem PasswordChecked.of_true (hc : PasswordChecked c s h true s') :
    ∃ user, Confirms c h user ∧
      (s.user = some user ∧ s' = s ∨ s.user = none ∧ s' = { s with user := some user }) := by
  cases hc with
  | @bound user hname hpassword huser =>
    refine ⟨user, ⟨List.mem_cons_self, List.mem_cons_of_mem _ List.mem_cons_self⟩, ?_⟩
    rcases huser with hnone | hsame
    · exact .inr ⟨hnone, rfl⟩
    · refine .inl ⟨hsame, ?_⟩
      rw [← hsame]

theorem Confirms.append {user : User} (hc : Confirms c h user) (later : List (Exchange surroundings)) :
    Confirms c (h ++ later) user :=
  ⟨List.mem_append_left later hc.1, List.mem_append_left later hc.2⟩

/-- What a failed submission of user name and password leaves. -/
theorem PasswordTurn.debris (ht : PasswordTurn configuration c s h (.failed step) s') :
    (step = passwordStep ∧ s' = s ∨
      step = deviceStep ∧ ∃ user, Confirms c h user ∧
        (s.user = some user ∧ s' = s ∨ s.user = none ∧ s' = { s with user := some user })) ∧
    recordingsOf h = [] := by
  cases ht with
  | outOfOrder _ => exact ⟨.inl ⟨rfl, rfl⟩, rfl⟩
  | rejected _ hc => exact ⟨.inl ⟨rfl, hc.eq_of_false⟩, hc.recordingsOf_eq⟩
  | @unprepared h₁ h₂ s₁ s₂ _ hc hp =>
    -- The user stays bound, but the failed preparation itself leaves nothing.
    obtain ⟨user, hconfirms, hsession⟩ := hc.of_true
    rw [hp.eq_of_false, recordingsOf_append, hc.recordingsOf_eq, hp.recordingsOf_eq]
    exact ⟨.inr ⟨rfl, user, hconfirms.append h₂, hsession⟩, rfl⟩

/-! ## The response -/

/-- A workflow that is not accepted leaves nothing to record. -/
theorem Recorded.eq_nil_of_false {workflow : Workflow} {user : User}
    (hr : Recorded configuration workflow user false h) : h = [] := by
  cases hr with
  | nothing _ => rfl
  | device haccepted _ _ => cases haccepted

/-- Whether a response is handed in. -/
def HandsIn (h : List (Exchange surroundings)) : Prop := ∃ call ∈ callsOf h, call.isFinish = true

theorem not_handsIn_nil : ¬HandsIn [] := by
  rintro ⟨call, hcall, -⟩
  cases hcall

theorem handsIn_finished {workflow : Workflow} {user : User} {token : String}
    {answer : Except Fido.Fault Fido.Status} :
    HandsIn (finished configuration workflow user token answer :: h) := by
  refine ⟨finishCall configuration workflow user token, ?_, isFinish_finishCall⟩
  rw [callsOf_finished]
  exact List.mem_cons_self

/-- A device step that fails leaves the session as it is, or forgets the started workflow if the
response was handed in. -/
theorem DeviceChecked.debris (hd : DeviceChecked configuration p s h false s') :
    (¬HandsIn h → s' = s) ∧ (HandsIn h → s.Cleared s') ∧ recordingsOf h = [] := by
  generalize hok : false = ok at hd
  cases hd with
  | unfit _ => exact ⟨fun _ => rfl, fun hin => absurd hin not_handsIn_nil, rfl⟩
  | judged _ hr =>
    rw [← hok] at hr
    obtain rfl := hr.eq_nil_of_false
    exact ⟨fun hn => absurd handsIn_finished hn, fun _ => s.cleared_clearPending,
      recordingsOf_finished⟩

/-- What a failed submission of a response leaves. -/
theorem DeviceTurn.debris (ht : DeviceTurn configuration p s h (.failed step) s') :
    step = deviceStep ∧ (¬HandsIn h → s' = s) ∧ (HandsIn h → s.Cleared s') ∧
      recordingsOf h = [] := by
  cases ht with
  | outOfOrder _ => exact ⟨rfl, fun _ => rfl, fun hin => absurd hin not_handsIn_nil, rfl⟩
  | rejected _ hd => exact ⟨rfl, hd.debris⟩

/-- Neither submission asks the directory to record anything if it fails. -/
theorem recordingsOf_of_failed {submission : Submission}
    (hy : ((deviceFlow configuration).submit submission s).Yields h (.failed step, s')) :
    recordingsOf h = [] := by
  cases submission with
  | credentials c p => exact (passwordTurn_of_yields hy).debris.2
  | token p => exact (deviceTurn_of_yields hy).debris.2.2.2

/-- Whatever the session is, whatever is submitted, and whatever directory and server answer: if user
name and password fail with the password step, the session is as before; if they fail with the device
step, the session is at most newly bound to the user whose password was confirmed; and they fail with
no other step. If a response fails, it fails with the device step; the session is as before if no
response was handed in, and otherwise it is the same without a started workflow. Nobody asks the
directory to record anything, and a directory in memory stays the same. -/
theorem failed_submissions_leave_no_debris {σ : Type} (configuration : Configuration) (s : Session)
    (world : Responder surroundings σ) (w : σ) :
    (∀ c p step, let o := ((deviceFlow configuration).submitCredentials c p s).run world w
      o.value.1 = .failed step →
        (step = passwordStep ∧ o.value.2 = s ∨
          step = deviceStep ∧ ∃ user, Confirms c o.exchanges user ∧
            (s.user = some user ∧ o.value.2 = s ∨
              s.user = none ∧ o.value.2 = { s with user := some user })) ∧
        recordingsOf o.exchanges = []) ∧
    (∀ p step, let o := ((deviceFlow configuration).submitToken p s).run world w
      o.value.1 = .failed step →
        step = deviceStep ∧ (¬HandsIn o.exchanges → o.value.2 = s) ∧
          (HandsIn o.exchanges → s.Cleared o.value.2) ∧ recordingsOf o.exchanges = []) ∧
    ∀ {φ : Type} (server : Responder Fido.calls φ) (d : Directory) (f : φ) submission step,
      let o := ((deviceFlow configuration).submit submission s).run (inMemory server) (d, f)
      o.value.1 = .failed step → o.state.1 = d := by
  refine ⟨?_, ?_, ?_⟩
  · intro c p step o hfailed
    have hy : ((deviceFlow configuration).submitCredentials c p s).Yields o.exchanges
        (o.value.1, o.value.2) := Program.yields_run world _ w
    rw [hfailed] at hy
    exact (passwordTurn_of_yields hy).debris
  · intro p step o hfailed
    have hy : ((deviceFlow configuration).submitToken p s).Yields o.exchanges
        (o.value.1, o.value.2) := Program.yields_run world _ w
    rw [hfailed] at hy
    exact (deviceTurn_of_yields hy).debris
  · intro φ server d f submission step o hfailed
    have hy : ((deviceFlow configuration).submit submission s).Yields o.exchanges
        (o.value.1, o.value.2) := Program.yields_run (inMemory server) _ (d, f)
    have hreplies : (inMemory server).Replies (d, f) o.exchanges o.state :=
      Program.replies_run (inMemory server) _ (d, f)
    rw [hfailed] at hy
    exact directory_eq_of_recordingsOf hreplies (recordingsOf_of_failed hy)

/-- A server that starts no workflow and accepts no response. -/
def unwilling : Responder Fido.calls Unit where
  respond
    | .fetchMetadata _, w => (Except.error (.transport "down"), w)
    | .startRegistration .., w => (Except.error (.transport "down"), w)
    | .startAuthentication .., w => (Except.error (.transport "down"), w)
    | .finishRegistration .., w => (Except.ok ⟨"denied", none⟩, w)
    | .finishAuthentication .., w => (Except.ok ⟨"denied", none⟩, w)

/-- With such a server Alice fails in four ways: unknown to the directory she leaves no trace; known to
it she stays bound; her response uses up the challenge; and no response leaves it as it is. -/
theorem unwilling_server_leaves_no_debris :
    let flow := deviceFlow obligingConfiguration
    let start := Session.start "session" ⟨0⟩
    let alice : Credentials := ⟨"alice", "secret"⟩
    let stranger := (flow.submitCredentials alice .empty start).run (inMemory unwilling) (.empty, ())
    let known := (flow.submitCredentials alice .empty start).run (parties counting unwilling) (0, ())
    let sent (p : Parameters) :=
      (flow.submitToken p challengedSession).run (inMemory unwilling) (.empty, ())
    (stranger.value = (.failed passwordStep, start) ∧ stranger.state.1 = .empty) ∧
      (known.value.1 = .failed deviceStep ∧ ∃ user, Confirms alice known.exchanges user ∧
        known.value.2 = { start with user := some user }) ∧
      ((sent enrollment).value.1 = .failed deviceStep ∧
        challengedSession.Cleared (sent enrollment).value.2) ∧
      (sent .empty).value = (.failed deviceStep, challengedSession) := by
  intro flow start alice stranger known sent
  have hstranger := failed_submissions_leave_no_debris obligingConfiguration start
    (inMemory unwilling) (.empty, ())
  have hknown := (failed_submissions_leave_no_debris obligingConfiguration start
    (parties counting unwilling) (0, ())).1 alice .empty deviceStep rfl
  have hsent := (failed_submissions_leave_no_debris obligingConfiguration challengedSession
    (inMemory unwilling) (.empty, ())).2.1
  have hsame : stranger.value.2 = start := by
    rcases (hstranger.1 alice .empty passwordStep rfl).1 with ⟨-, hsame⟩ | ⟨hstep, -⟩
    · exact hsame
    · exact absurd hstep (by decide)
  have hbound : ∃ user, Confirms alice known.exchanges user ∧
      known.value.2 = { start with user := some user } := by
    rcases hknown.1 with ⟨hstep, -⟩ | ⟨-, user, hconfirms, ⟨huser, -⟩ | ⟨-, hsession⟩⟩
    · exact absurd hstep (by decide)
    · cases huser
    · exact ⟨user, hconfirms, hsession⟩
  have hin : HandsIn (sent enrollment).exchanges :=
    ⟨.finishRegistration obligingConfiguration.metadata "user" "signed", List.mem_cons_self, rfl⟩
  have hnone : ¬HandsIn (sent .empty).exchanges := not_handsIn_nil
  exact ⟨⟨Prod.ext rfl hsame, hstranger.2.2 unwilling .empty () (.credentials alice .empty) _ rfl⟩,
    ⟨rfl, hbound⟩, ⟨rfl, (hsent enrollment deviceStep rfl).2.2.1 hin⟩,
    Prod.ext rfl ((hsent .empty deviceStep rfl).2.1 hnone)⟩

end TwoStepLogin.Login
