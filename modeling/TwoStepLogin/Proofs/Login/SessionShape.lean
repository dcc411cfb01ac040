import Mathlib.Logic.ExistsUnique
import TwoStepLogin.Proofs.Login.DeviceFlow

/-!
# The shape of a session

A started workflow is remembered under three keys, which are written one after the other. Nobody ever
finds them half written, and the step of a login shows what else is there.

* `Session.Remembers` — nothing is kept under any key, or the keys of one started workflow are;
* `Session.Tidy` — one or the other;
* `Login.Standing`, `Login.Stands` — the shapes of a login, step by step;
* `Login.KeyUse` — calls of the device method, mixed with direct writes of a workflow;
* `Login.sessions_keep_their_shape` — no other shapes occur.
-/

set_option autoImplicit false

namespace TwoStepLogin

theorem Workflow.eq_or_eq_other (w v : Workflow) : v = w ∨ v = w.other := by
  cases v <;> cases w <;> decide

namespace Session

/-- Either nothing is kept under any key, or exactly a started workflow with a challenge of its own
kind. -/
def Remembers (s : Session) : Option Workflow → Prop
  | none => ∀ key, s.get? key = none
  | some workflow => ∃ challenge : Json, ∀ key, s.get? key =
      if key = workflowKey then some workflow.name
      else if key = challengeKey workflow then some challenge.compact
      else none

/-- Nothing is half written. -/
def Tidy (s : Session) : Prop := ∃ pending, s.Remembers pending

variable {s s' : Session} {pending other : Option Workflow} {key : String}

theorem remembers_start (id : String) (now : Instant) : (start id now).Remembers none := fun _ => rfl

/-- A session with the same texts remembers the same. -/
theorem Remembers.congr (h : s.Remembers pending) (ha : s'.attributes = s.attributes) :
    s'.Remembers pending := by
  have hget : ∀ key, s'.get? key = s.get? key := fun key => by rw [get?, get?, ha]
  cases pending with
  | none => exact fun key => (hget key).trans (h key)
  | some workflow =>
    obtain ⟨challenge, hc⟩ := h
    exact ⟨challenge, fun key => (hget key).trans (hc key)⟩

/-- What is remembered is the started workflow. -/
theorem Remembers.startedWorkflow?_eq (h : s.Remembers pending) : s.startedWorkflow? = pending := by
  unfold startedWorkflow?
  cases pending with
  | none => rw [h workflowKey, Option.bind_none]
  | some workflow =>
    obtain ⟨challenge, hc⟩ := h
    rw [hc workflowKey, if_pos rfl, Option.bind_some, Workflow.ofName?_name]

theorem Remembers.unique (h : s.Remembers pending) (h' : s.Remembers other) : pending = other :=
  h.startedWorkflow?_eq.symm.trans h'.startedWorkflow?_eq

/-- No keys but those of a workflow are in use. -/
theorem Remembers.get?_eq_none (h : s.Remembers pending) (hw : key ≠ workflowKey)
    (hc : ∀ workflow, key ≠ challengeKey workflow) : s.get? key = none := by
  cases pending with
  | none => exact h key
  | some workflow =>
    obtain ⟨challenge, hget⟩ := h
    rw [hget key, if_neg hw, if_neg (hc workflow)]

/-- Only two kinds of challenges are kept. -/
theorem ne_challengeKey (w : Workflow) (hw : key ≠ challengeKey w)
    (ho : key ≠ challengeKey w.other) (v : Workflow) : key ≠ challengeKey v := by
  rcases w.eq_or_eq_other v with rfl | rfl
  · exact hw
  · exact ho

theorem Remembers.storeChallenge (h : s.Remembers pending) (w : Workflow) (challenge : Json) :
    (s.storeChallenge w challenge).Remembers (some w) := by
  refine ⟨challenge, fun key => ?_⟩
  simp only [Session.storeChallenge, get?_set, get?_remove]
  split
  · rfl
  · rename_i hw
    split
    · rfl
    · rename_i hc
      split
      · rfl
      · rename_i ho
        exact h.get?_eq_none hw (ne_challengeKey w hc ho)

theorem Remembers.clearPending (h : s.Remembers pending) : s.clearPending.Remembers none := by
  intro key
  simp only [Session.clearPending, get?_remove]
  split
  · rfl
  · rename_i hw
    split
    · rfl
    · rename_i ha
      split
      · rfl
      · rename_i he
        exact h.get?_eq_none hw (ne_challengeKey .authenticate ha he)

end Session

namespace Login

variable {configuration : Configuration} {c : Credentials} {p : Parameters} {s s' : Session}
  {h : List (Exchange surroundings)} {ok : Bool} {outcome : StepOutcome}

/-! ## What a step leaves behind -/

theorem PasswordChecked.attributes_eq (hc : PasswordChecked c s h ok s') :
    s'.attributes = s.attributes := by
  rw [hc.eq_of_user]

/-- A device step that is prepared leaves a challenge, or nothing if there is no device. -/
theorem DevicePrepared.tidy (hp : DevicePrepared configuration s h ok s') (ht : s.Tidy) :
    s'.Tidy := by
  obtain ⟨pending, hr⟩ := ht
  cases hp with
  | unready _ => exact ⟨pending, hr⟩
  | unknown _ _ _ => exact ⟨pending, hr⟩
  | issued _ _ _ => exact ⟨_, hr.storeChallenge _ _⟩
  | noDevice _ _ _ _ => exact ⟨none, hr.clearPending⟩
  | faulty _ _ _ _ => exact ⟨pending, hr⟩

theorem DeviceChecked.tidy (hd : DeviceChecked configuration p s h ok s') (ht : s.Tidy) :
    s'.Tidy := by
  obtain ⟨pending, hr⟩ := ht
  rcases hd.kept_or_cleared with rfl | rfl
  · exact ⟨pending, hr⟩
  · exact ⟨none, hr.clearPending⟩

/-! ## The shapes of a login -/

/-- Where a login stands. -/
inductive Standing where
  /-- It waits for user name and password. -/
  | password
  /-- It waits for the device, with a started workflow or without. -/
  | device (pending : Option Workflow)
  | completed
  deriving DecidableEq, Repr

/-- The shape of a session where the login stands. -/
def Stands (s : Session) : Standing → Prop
  | .password => s.step = passwordStep ∧ s.completed = false ∧ s.Remembers none
  | .device pending => s.step = deviceStep ∧ s.completed = false ∧
      (∃ user, s.user = some user) ∧ s.Remembers pending
  | .completed => s.step = acknowledgementStep ∧ s.completed = true ∧
      (∃ user, s.user = some user) ∧ s.Remembers none

/-- The step of a standing. -/
def Standing.step : Standing → UInt32
  | .password => passwordStep
  | .device _ => deviceStep
  | .completed => acknowledgementStep

variable {standing other : Standing}

theorem Stands.step_eq (hs : Stands s standing) : s.step = standing.step := by
  cases standing with
  | password => exact hs.1
  | device pending => exact hs.1
  | completed => exact hs.1

/-- A session has one shape only. -/
theorem Stands.unique (hs : Stands s standing) (ho : Stands s other) : standing = other := by
  have hstep : standing.step = other.step := hs.step_eq.symm.trans ho.step_eq
  cases standing with
  | password =>
    cases other with
    | password => rfl
    | device _ => cases hstep
    | completed => cases hstep
  | device pending =>
    cases other with
    | password => cases hstep
    | device pending' => exact congrArg _ (hs.2.2.2.unique ho.2.2.2)
    | completed => cases hstep
  | completed =>
    cases other with
    | password => cases hstep
    | device _ => cases hstep
    | completed => rfl

/-- Whoever may submit a password finds nothing remembered. -/
theorem Stands.at_password (hs : Stands s standing) (hx : Flow.expects s passwordStep = true) :
    Stands s .password := by
  have hstep : standing.step = passwordStep :=
    hs.step_eq.symm.trans (Flow.expects_eq_true_iff.1 hx).2
  cases standing with
  | password => exact hs
  | device _ => cases hstep
  | completed => cases hstep

/-- Whoever may submit a device's response finds a user. -/
theorem Stands.at_device (hs : Stands s standing) (hx : Flow.expects s deviceStep = true) :
    ∃ pending, Stands s (.device pending) := by
  have hstep : standing.step = deviceStep :=
    hs.step_eq.symm.trans (Flow.expects_eq_true_iff.1 hx).2
  cases standing with
  | password => cases hstep
  | device pending => exact ⟨pending, hs⟩
  | completed => cases hstep

/-- The password step leaves all but the user as it is. -/
theorem Stands.passwordChecked (hs : Stands s .password) (hc : PasswordChecked c s h ok s') :
    Stands s' .password := by
  obtain ⟨hstep, hnot, hr⟩ := hs
  have he := hc.eq_of_user
  refine ⟨?_, ?_, hr.congr hc.attributes_eq⟩
  · rw [he]
    exact hstep
  · rw [he]
    exact hnot

/-- A device step that was prepared waits for its device. -/
theorem Stands.devicePrepared (hs : Stands s .password)
    (hp : DevicePrepared configuration s h true s') :
    ∃ pending, Stands (s'.withStep deviceStep) (.device pending) := by
  obtain ⟨-, hnot, hr⟩ := hs
  cases hp with
  | issued _ hu _ => exact ⟨_, rfl, hnot, ⟨_, hu⟩, (hr.storeChallenge _ _).congr rfl⟩
  | noDevice _ hu _ _ => exact ⟨none, rfl, hnot, ⟨_, hu⟩, hr.clearPending.congr rfl⟩

theorem Stands.passwordTurn (hs : Stands s standing)
    (ht : PasswordTurn configuration c s h outcome s') : ∃ next, Stands s' next := by
  cases ht with
  | outOfOrder _ => exact ⟨standing, hs⟩
  | rejected hx hc => exact ⟨.password, (hs.at_password hx).passwordChecked hc⟩
  | unprepared hx hc hp =>
    obtain rfl := hp.eq_of_false
    exact ⟨.password, (hs.at_password hx).passwordChecked hc⟩
  | prepared hx hc hp =>
    obtain ⟨pending, hnext⟩ := ((hs.at_password hx).passwordChecked hc).devicePrepared hp
    exact ⟨.device pending, hnext⟩

theorem Stands.deviceTurn (hs : Stands s standing)
    (ht : DeviceTurn configuration p s h outcome s') : ∃ next, Stands s' next := by
  cases ht with
  | outOfOrder _ => exact ⟨standing, hs⟩
  | rejected hx hd =>
    obtain ⟨pending, hstep, hnot, huser, hr⟩ := hs.at_device hx
    rcases hd.kept_or_cleared with rfl | rfl
    · exact ⟨.device pending, hstep, hnot, huser, hr⟩
    · exact ⟨.device none, hstep, hnot, huser, hr.clearPending⟩
  | accepted hx hd =>
    obtain ⟨pending, -, -, huser, hr⟩ := hs.at_device hx
    obtain ⟨_, _, _, _, _, -, -, -, rfl⟩ := hd.of_true
    exact ⟨.completed, rfl, rfl, huser, hr.clearPending.congr rfl⟩

theorem stands_of_played {id : String} {now : Instant}
    {turns : List (Turn surroundings Submission Session StepOutcome)}
    (hplay : Played (deviceFlow configuration).submit (Session.start id now) turns s) :
    ∃ standing, Stands s standing := by
  induction hplay with
  | nil => exact ⟨.password, rfl, rfl, Session.remembers_start id now⟩
  | @snoc turns t _ hy ih =>
    obtain ⟨command, before, h, reply, after⟩ := t
    obtain ⟨standing, hs⟩ := ih
    cases command with
    | credentials c p => exact hs.passwordTurn (passwordTurn_of_yields hy)
    | token p => exact hs.deviceTurn (deviceTurn_of_yields hy)

/-! ## Without the order of steps -/

/-- A call of the device method at any step, or a direct write of what it keeps under the keys. -/
inductive KeyUse where
  | prepare (step : UInt32) (parameters : Parameters)
  | authenticate (step : UInt32) (credentials : Credentials) (parameters : Parameters)
  | store (workflow : Workflow) (challenge : Json)
  | clear

/-- What such a use does with the session. -/
def KeyUse.act (configuration : Configuration) : KeyUse → Session → Action (Bool × Session)
  | .prepare step p, s => deviceMethod.prepare configuration p s step
  | .authenticate step c p, s => deviceMethod.authenticate configuration c p s step
  | .store workflow challenge, s => pure (true, s.storeChallenge workflow challenge)
  | .clear, s => pure (true, s.clearPending)

/-- Every use leaves the keys in order. -/
theorem KeyUse.tidy {u : KeyUse} (ht : s.Tidy)
    (hy : (u.act configuration s).Yields h (ok, s')) : s'.Tidy := by
  cases u with
  | prepare step p =>
    obtain ⟨-, hp⟩ | ⟨-, -, rfl, -⟩ := prepare_yields hy
    · exact hp.tidy ht
    · exact ht
  | authenticate step c p =>
    obtain ⟨-, hc⟩ | ⟨-, hd⟩ | ⟨-, -, -, -, rfl⟩ := authenticate_yields hy
    · obtain ⟨pending, hr⟩ := ht
      exact ⟨pending, hr.congr hc.attributes_eq⟩
    · exact hd.tidy ht
    · exact ht
  | store workflow challenge =>
    obtain ⟨-, he⟩ := hy
    cases he
    obtain ⟨pending, hr⟩ := ht
    exact ⟨some workflow, hr.storeChallenge workflow challenge⟩
  | clear =>
    obtain ⟨-, he⟩ := hy
    cases he
    obtain ⟨pending, hr⟩ := ht
    exact ⟨none, hr.clearPending⟩

theorem tidy_of_played {id : String} {now : Instant}
    {turns : List (Turn surroundings KeyUse Session Bool)}
    (hplay : Played (KeyUse.act configuration) (Session.start id now) turns s) : s.Tidy := by
  induction hplay with
  | nil => exact ⟨none, Session.remembers_start id now⟩
  | snoc _ hy ih => exact KeyUse.tidy ih hy

/-- Whatever is submitted to a new session, and whatever directory and server answer, the session has
one of the shapes of a login and no other before and after every submission. Whatever calls and
direct writes are made without any order, either nothing is remembered or one started workflow. -/
theorem sessions_keep_their_shape {σ : Type} (configuration : Configuration)
    (others : Responder surroundings σ) (id : String) (now : Instant) (w : σ) :
    let start := Session.start id now
    (∀ submissions, ∀ s ∈ start :: (play (deviceFlow configuration).submit others submissions start
        w).map Turn.after, ∃! standing, Stands s standing) ∧
      ∀ uses, ∀ s ∈ start :: (play (KeyUse.act configuration) others uses start w).map Turn.after,
        ∃! pending, s.Remembers pending := by
  intro start
  refine ⟨fun submissions s hs => ?_, fun uses s hs => ?_⟩
  · have hplay := Played.of_mem_states (played_play _ others submissions start w) hs
    obtain ⟨turns, hturns⟩ := hplay
    obtain ⟨standing, hstands⟩ := stands_of_played hturns
    exact ⟨standing, hstands, fun other ho => ho.unique hstands⟩
  · have hplay := Played.of_mem_states (played_play _ others uses start w) hs
    obtain ⟨turns, hturns⟩ := hplay
    obtain ⟨pending, hr⟩ := tidy_of_played hturns
    exact ⟨pending, hr, fun other ho => ho.unique hr⟩

/-- After her password, Alice's session waits with the challenge for a new device. -/
theorem enrollment_stands_at_device :
    let start := Session.start "session" ⟨0⟩
    let submissions := [.credentials ⟨"alice", "secret"⟩ .empty]
    ∃ t, play (deviceFlow obligingConfiguration).submit obliging submissions start () = [t] ∧
      Stands t.after (.device (some .enroll)) := by
  intro start submissions
  let turns := play (deviceFlow obligingConfiguration).submit obliging submissions start ()
  have h := (sessions_keep_their_shape obligingConfiguration obliging "session" ⟨0⟩ ()).1
  obtain ⟨standing, hs, -⟩ :=
    h submissions turns[0].after (List.mem_cons_of_mem _ List.mem_cons_self)
  refine ⟨turns[0], rfl, ?_⟩
  cases standing with
  | password => cases hs.1
  | completed => cases hs.1
  | device pending =>
    have hpending : some Workflow.enroll = pending := hs.2.2.2.startedWorkflow?_eq
    exact hpending ▸ hs

end Login

end TwoStepLogin
