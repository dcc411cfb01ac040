import TwoStepLogin.Proofs.Effect.Play
import TwoStepLogin.Proofs.Login.DeviceSteps

/-!
# How challenges are used

Nobody has to keep to the order of steps to be safe: here the calls of the device method come in any
order and as often as anyone likes. The session still remembers what became of the last challenge.

* `Login.MethodUse` — a call of the device method, or a change that the host makes on its own;
* `Login.Mark`, `Login.lastMark` — what happened to a challenge;
* `Login.firstAccepted` — the first user whose password was accepted;
* `Login.InUse` — the invariant: what a session remembers of the calls so far;
* `Login.challenges_are_used_once` — a challenge is used once, for its own workflow and its user.
-/

set_option autoImplicit false

namespace TwoStepLogin.Login

/-- A change of a session that touches neither its identifier nor its user nor its workflow. -/
structure HostChange where
  apply : Session → Session
  id_eq (s : Session) : (apply s).id = s.id
  user_eq (s : Session) : (apply s).user = s.user
  workflow_eq (s : Session) : (apply s).get? Session.workflowKey = s.get? Session.workflowKey

/-- The host moves a session to a step. -/
def HostChange.toStep (step : UInt32) : HostChange :=
  ⟨fun s => s.withStep step, fun _ => rfl, fun _ => rfl, fun _ => rfl⟩

/-- A call of the device method, or something that the host does in between. -/
inductive MethodUse where
  | prepare (step : UInt32) (parameters : Parameters)
  | authenticate (step : UInt32) (credentials : Credentials) (parameters : Parameters)
  | change (host : HostChange)

/-- What a call does with the session. -/
def MethodUse.act (configuration : Configuration) :
    MethodUse → Session → Action (Bool × Session)
  | .prepare step p, s => deviceMethod.prepare configuration p s step
  | .authenticate step c p, s => deviceMethod.authenticate configuration c p s step
  | .change host, s => pure (true, host.apply s)

/-! ## What is seen from outside -/

/-- What happens to challenges. -/
inductive Mark where
  /-- A workflow was started, there is a challenge. -/
  | started (workflow : Workflow)
  /-- The server knows no device to authenticate by. -/
  | noDevice
  /-- A response to a challenge was handed in, whatever came of it. -/
  | finished (workflow : Workflow)
  deriving DecidableEq, Repr

/-- The mark of starting a workflow. -/
def startMark (workflow : Workflow) : Except Fido.Fault Json → Option Mark
  | .ok _ => some (.started workflow)
  | .error fault =>
    if workflow = .authenticate ∧ fault.isNotFound = true then some .noDevice else none

/-- The mark that an exchange leaves. -/
def mark? : Exchange surroundings → Option Mark
  | ⟨.fido (.startRegistration ..), answer⟩ => startMark .enroll answer
  | ⟨.fido (.startAuthentication ..), answer⟩ => startMark .authenticate answer
  | ⟨.fido (.finishRegistration ..), _⟩ => some (.finished .enroll)
  | ⟨.fido (.finishAuthentication ..), _⟩ => some (.finished .authenticate)
  | _ => none

/-- The most recent mark. -/
def lastMark (h : List (Exchange surroundings)) : Option Mark := (h.filterMap mark?).getLast?

/-- The workflow whose challenge is open after a mark. -/
def Mark.open? : Mark → Option Workflow
  | .started workflow => some workflow
  | _ => none

/-- For whom a workflow is started or finished. -/
def userId? : Exchange surroundings → Option String
  | ⟨.fido (.startRegistration _ userId _ _), _⟩ => some userId
  | ⟨.fido (.startAuthentication _ userId _ _ _), _⟩ => some userId
  | ⟨.fido (.finishRegistration _ userId _), _⟩ => some userId
  | ⟨.fido (.finishAuthentication _ userId _), _⟩ => some userId
  | _ => none

/-- Application and session with which a workflow is started. -/
def startedFor? : Exchange surroundings → Option (String × String)
  | ⟨.fido (.startRegistration _ _ applicationId sessionId), _⟩ => some (applicationId, sessionId)
  | ⟨.fido (.startAuthentication _ _ _ applicationId sessionId), _⟩ =>
    some (applicationId, sessionId)
  | _ => none

/-- The user that the directory resolved. -/
def resolved? : Exchange surroundings → Option User
  | ⟨.directory (.findUser _), answer⟩ =>
    match (answer : Except Directory.Fault (Option User)) with
    | .ok found => found
    | .error _ => none
  | _ => none

/-- The user whose password was accepted in a turn. -/
def acceptedUser? (t : Turn surroundings MethodUse Session Bool) : Option User :=
  match t.command, t.reply with
  | .authenticate step _ _, true =>
    if step = passwordStep then t.exchanges.findSome? resolved? else none
  | _, _ => none

/-- The first user whose password was accepted. -/
def firstAccepted (turns : List (Turn surroundings MethodUse Session Bool)) : Option User :=
  turns.findSome? acceptedUser?

theorem firstAccepted_append (turns more : List (Turn surroundings MethodUse Session Bool)) :
    firstAccepted (turns ++ more) = (firstAccepted turns).or (firstAccepted more) :=
  List.findSome?_append

@[simp] theorem mark?_told (query : Directory.Query) (answer : query.Answer) :
    mark? (told query answer) = none := rfl

@[simp] theorem mark?_started (configuration : Configuration) (workflow : Workflow) (user : User)
    (applicationId sessionId : String) (answer : Except Fido.Fault Json) :
    mark? (started configuration workflow user applicationId sessionId answer) =
      startMark workflow answer := by
  cases workflow with
  | enroll => rfl
  | authenticate => rfl

@[simp] theorem mark?_finished (configuration : Configuration) (workflow : Workflow) (user : User)
    (token : String) (answer : Except Fido.Fault Fido.Status) :
    mark? (finished configuration workflow user token answer) = some (.finished workflow) := by
  cases workflow with
  | enroll => rfl
  | authenticate => rfl

/-! ## Open challenges -/

/-- The workflow whose challenge is open after an exchange. -/
def openNext (before : Option Workflow) (e : Exchange surroundings) : Option Workflow :=
  match mark? e with
  | some mark => mark.open?
  | none => before

/-- The workflow whose challenge is open after some exchanges. -/
def openAfter (before : Option Workflow) (h : List (Exchange surroundings)) : Option Workflow :=
  h.foldl openNext before

/-- Every finished workflow is the one whose challenge is open at that time. -/
def Orderly (before : Option Workflow) : List (Exchange surroundings) → Prop
  | [] => True
  | e :: rest =>
    (∀ workflow, mark? e = some (.finished workflow) → before = some workflow) ∧
      Orderly (openNext before e) rest

theorem openAfter_append (before : Option Workflow) (h h' : List (Exchange surroundings)) :
    openAfter before (h ++ h') = openAfter (openAfter before h) h' := List.foldl_append

/-- The open challenge is the one of the most recent mark. -/
theorem openAfter_none (h : List (Exchange surroundings)) :
    openAfter none h = (lastMark h).bind Mark.open? := by
  -- The most recent mark is found from the end.
  rw [openAfter, ← List.foldr_reverse, lastMark, List.getLast?_eq_head?_reverse,
    ← List.filterMap_reverse]
  induction h.reverse with
  | nil => rfl
  | cons e rest ih =>
    rw [List.foldr_cons, ih, openNext, List.filterMap_cons]
    cases mark? e with
    | some mark => rfl
    | none => rfl

theorem orderly_append {before : Option Workflow} {h h' : List (Exchange surroundings)} :
    Orderly before (h ++ h') ↔ Orderly before h ∧ Orderly (openAfter before h) h' := by
  induction h generalizing before with
  | nil => simp [Orderly, openAfter]
  | cons e rest ih =>
    rw [List.cons_append, Orderly, Orderly, ih, and_assoc]
    rfl

theorem orderly_told (before : Option Workflow) (query : Directory.Query)
    (answer : query.Answer) (h : List (Exchange surroundings)) :
    Orderly before (told query answer :: h) ↔ Orderly before h := by
  simp [Orderly, openNext]

theorem openAfter_told (before : Option Workflow) (query : Directory.Query)
    (answer : query.Answer) (h : List (Exchange surroundings)) :
    openAfter before (told query answer :: h) = openAfter before h := rfl

theorem startMark_ne_finished (workflow other : Workflow) (answer : Except Fido.Fault Json) :
    startMark workflow answer ≠ some (.finished other) := by
  intro he
  unfold startMark at he
  split at he
  · cases he
  · split at he
    · cases he
    · cases he

/-- Only the start of an authentication finds that there is no device. -/
theorem startMark_error_eq_none {workflow : Workflow} {fault : Fido.Fault}
    (hf : workflow = .authenticate → fault.isNotFound = false) :
    startMark workflow (.error fault) = none :=
  if_neg fun hw => by simp [hf hw.1] at hw

theorem orderly_started (before : Option Workflow) (configuration : Configuration)
    (workflow : Workflow) (user : User) (applicationId sessionId : String)
    (answer : Except Fido.Fault Json) :
    Orderly before [started configuration workflow user applicationId sessionId answer] := by
  rw [Orderly, mark?_started]
  exact ⟨fun other he => absurd he (startMark_ne_finished _ _ _), trivial⟩

/-! ## One call -/

/-- An exchange concerns the user of the session, the session and the configured application. -/
structure Concerns (configuration : Configuration) (s : Session) (e : Exchange surroundings) :
    Prop where
  user {userId : String} : userId? e = some userId →
    ∃ user, s.user = some user ∧ user.userId = userId
  place {applicationId sessionId : String} : startedFor? e = some (applicationId, sessionId) →
    sessionId = s.id ∧
      configuration.attributes.get? DeviceMethod.applicationIdKey = some applicationId

variable {configuration : Configuration} {s s' : Session} {h : List (Exchange surroundings)}
  {ok : Bool}

theorem concerns_told (query : Directory.Query) (answer : query.Answer) :
    Concerns configuration s (told query answer) := ⟨nofun, nofun⟩

theorem concerns_started {workflow : Workflow} {user : User} {applicationId : String}
    {answer : Except Fido.Fault Json} (hu : s.user = some user)
    (ha : configuration.attributes.get? DeviceMethod.applicationIdKey = some applicationId) :
    Concerns configuration s (started configuration workflow user applicationId s.id answer) := by
  have huser : userId? (started configuration workflow user applicationId s.id answer) =
      some user.userId := by
    cases workflow with
    | enroll => rfl
    | authenticate => rfl
  have hplace : startedFor? (started configuration workflow user applicationId s.id answer) =
      some (applicationId, s.id) := by
    cases workflow with
    | enroll => rfl
    | authenticate => rfl
  constructor
  · intro userId he
    exact ⟨user, hu, Option.some.inj (huser.symm.trans he)⟩
  · intro application sessionId he
    cases hplace.symm.trans he
    exact ⟨rfl, ha⟩

theorem concerns_finished {workflow : Workflow} {user : User} {token : String}
    {answer : Except Fido.Fault Fido.Status} (hu : s.user = some user) :
    Concerns configuration s (finished configuration workflow user token answer) := by
  have huser : userId? (finished configuration workflow user token answer) = some user.userId := by
    cases workflow with
    | enroll => rfl
    | authenticate => rfl
  constructor
  · intro userId he
    exact ⟨user, hu, Option.some.inj (huser.symm.trans he)⟩
  · intro application sessionId he
    cases workflow with
    | enroll => cases he
    | authenticate => cases he

/-- What a call leaves of a session, and whom it concerns. -/
structure Keeps (configuration : Configuration) (s : Session) (h : List (Exchange surroundings))
    (s' : Session) : Prop where
  id_eq : s'.id = s.id
  workflow_eq : s'.startedWorkflow? = openAfter s.startedWorkflow? h
  orderly : Orderly s.startedWorkflow? h
  concerns : ∀ e ∈ h, Concerns configuration s e

/-- Questions to the directory change nothing about challenges. -/
theorem Keeps.of_told (hid : s'.id = s.id) (hw : s'.startedWorkflow? = s.startedWorkflow?)
    (ht : ∀ e ∈ h, ∃ query answer, e = told query answer) : Keeps configuration s h s' := by
  have hopen : openAfter s.startedWorkflow? h = s.startedWorkflow? ∧
      Orderly s.startedWorkflow? h := by
    clear hw
    induction h with
    | nil => exact ⟨rfl, trivial⟩
    | cons e rest ih =>
      obtain ⟨⟨query, answer, rfl⟩, hrest⟩ := List.forall_mem_cons.1 ht
      rw [openAfter_told, orderly_told]
      exact ih hrest
  refine ⟨hid, hw.trans hopen.1.symm, hopen.2, fun e he => ?_⟩
  obtain ⟨query, answer, rfl⟩ := ht e he
  exact concerns_told query answer

theorem PasswordChecked.keeps {c : Credentials} (hc : PasswordChecked c s h ok s') :
    Keeps configuration s h s' := by
  cases hc with
  | blank _ => exact .of_told rfl rfl nofun
  | rejected => exact .of_told rfl rfl (List.forall_mem_singleton.2 ⟨_, _, rfl⟩)
  | lost _ =>
    exact .of_told rfl rfl
      (List.forall_mem_cons.2 ⟨⟨_, _, rfl⟩, List.forall_mem_singleton.2 ⟨_, _, rfl⟩⟩)
  | occupied _ _ =>
    exact .of_told rfl rfl
      (List.forall_mem_cons.2 ⟨⟨_, _, rfl⟩, List.forall_mem_singleton.2 ⟨_, _, rfl⟩⟩)
  | bound _ _ _ =>
    exact .of_told rfl rfl
      (List.forall_mem_cons.2 ⟨⟨_, _, rfl⟩, List.forall_mem_singleton.2 ⟨_, _, rfl⟩⟩)

/-- Looking for devices, then starting a workflow. -/
theorem Keeps.of_started {user : User} {applicationId : String} {workflow : Workflow}
    {answer : Except Fido.Fault Json} {query : Directory.Query} {found : query.Answer}
    (hid : s'.id = s.id) (hu : s.user = some user)
    (ha : configuration.attributes.get? DeviceMethod.applicationIdKey = some applicationId)
    (hw : s'.startedWorkflow? =
      ((startMark workflow answer).map Mark.open?).getD s.startedWorkflow?) :
    Keeps configuration s
      [told query found, started configuration workflow user applicationId s.id answer] s' := by
  refine ⟨hid, ?_, (orderly_told _ _ _ _).2 (orderly_started _ _ _ _ _ _ _), ?_⟩
  · rw [hw, openAfter_told]
    simp only [openAfter, List.foldl_cons, List.foldl_nil, openNext, mark?_started]
    cases startMark workflow answer with
    | some mark => rfl
    | none => rfl
  · exact List.forall_mem_cons.2
      ⟨concerns_told _ _, List.forall_mem_singleton.2 (concerns_started hu ha)⟩

theorem DevicePrepared.keeps (hp : DevicePrepared configuration s h ok s') :
    Keeps configuration s h s' := by
  cases hp with
  | unready _ => exact .of_told rfl rfl nofun
  | unknown _ _ _ => exact .of_told rfl rfl (List.forall_mem_singleton.2 ⟨_, _, rfl⟩)
  | issued _ hu ha => exact .of_started rfl hu ha (Session.startedWorkflow?_storeChallenge _ _ _)
  | noDevice _ hu ha _ => exact .of_started rfl hu ha (Session.startedWorkflow?_clearPending _)
  | faulty _ hu ha hf =>
    exact .of_started rfl hu ha (by rw [startMark_error_eq_none hf]; rfl)

theorem Recorded.told {workflow : Workflow} {user : User} {accepted : Bool}
    (hr : Recorded configuration workflow user accepted h) :
    ∀ e ∈ h, ∃ query answer, e = told query answer := by
  cases hr with
  | nothing _ => exact nofun
  | device _ _ _ => exact List.forall_mem_singleton.2 ⟨_, _, rfl⟩

theorem DeviceChecked.keeps {p : Parameters} (hd : DeviceChecked configuration p s h ok s') :
    Keeps configuration s h s' := by
  cases hd with
  | unfit _ => exact .of_told rfl rfl nofun
  | @judged workflow user token answer recorded hs hr =>
    -- What is told after the verdict no longer matters.
    have hrest : Keeps configuration s.clearPending recorded s.clearPending :=
      .of_told rfl rfl hr.told
    have hnone := Session.startedWorkflow?_clearPending s
    have hnext : openNext s.startedWorkflow? (finished configuration workflow user token answer) =
        s.clearPending.startedWorkflow? := by
      rw [hnone, openNext, mark?_finished]
      rfl
    refine ⟨rfl, ?_, ⟨fun other he => ?_, ?_⟩, List.forall_mem_cons.2 ⟨?_, fun e he => ?_⟩⟩
    · rw [openAfter, List.foldl_cons, hnext]
      exact hrest.workflow_eq
    · rw [mark?_finished] at he
      cases he
      exact hs.started_eq
    · rw [hnext]
      exact hrest.orderly
    · exact concerns_finished hs.user_eq
    · obtain ⟨query, found, rfl⟩ := hr.told e he
      exact concerns_told query found

theorem MethodUse.keeps {u : MethodUse} (hy : (u.act configuration s).Yields h (ok, s')) :
    Keeps configuration s h s' := by
  cases u with
  | prepare step p =>
    obtain ⟨-, hp⟩ | ⟨-, rfl, rfl, -⟩ := prepare_yields hy
    · exact hp.keeps
    · exact .of_told rfl rfl nofun
  | authenticate step c p =>
    obtain ⟨-, hc⟩ | ⟨-, hd⟩ | ⟨-, -, rfl, -, rfl⟩ := authenticate_yields hy
    · exact hc.keeps
    · exact hd.keeps
    · exact .of_told rfl rfl nofun
  | change host =>
    obtain ⟨rfl, he⟩ := hy
    cases he
    refine .of_told (host.id_eq s) ?_ nofun
    rw [Session.startedWorkflow?, Session.startedWorkflow?, host.workflow_eq]

theorem DevicePrepared.user_eq (hp : DevicePrepared configuration s h ok s') : s'.user = s.user := by
  cases hp <;> rfl

theorem DeviceChecked.user_eq {p : Parameters} (hd : DeviceChecked configuration p s h ok s') :
    s'.user = s.user := by
  cases hd <;> rfl

/-! ## All calls -/

variable {id : String} {t : Turn surroundings MethodUse Session Bool}
  {turns : List (Turn surroundings MethodUse Session Bool)}

/-- Only an accepted password gives a session its user, and only its first. -/
theorem user_of_turn
    (hy : (t.command.act configuration t.before).Yields t.exchanges (t.reply, t.after)) :
    t.after.user = t.before.user.or (acceptedUser? t) := by
  obtain ⟨u, s, h, ok, s'⟩ := t
  change (u.act configuration s).Yields h (ok, s') at hy
  cases u with
  | prepare step p =>
    obtain ⟨-, hp⟩ | ⟨-, -, rfl, -⟩ := prepare_yields hy
    · exact hp.user_eq.trans (Option.or_none).symm
    · exact (Option.or_none).symm
  | authenticate step c p =>
    obtain ⟨rfl, hc⟩ | ⟨rfl, hd⟩ | ⟨-, -, -, rfl, rfl⟩ := authenticate_yields hy
    · cases hc with
      | @bound user _ _ hs =>
        show some user = s.user.or (some user)
        rcases hs with hs | hs
        · rw [hs]
          rfl
        · rw [hs]
          rfl
      | _ => exact (Option.or_none).symm
    · have hnone : acceptedUser? ⟨.authenticate deviceStep c p, s, h, ok, s'⟩ = none := by
        cases ok with
        | true => rfl
        | false => rfl
      rw [hnone, Option.or_none]
      exact hd.user_eq
    · exact (Option.or_none).symm
  | change host =>
    obtain ⟨rfl, he⟩ := hy
    cases he
    exact (host.user_eq s).trans (Option.or_none).symm

/-- What a session remembers of the calls so far. -/
structure InUse (id : String) (turns : List (Turn surroundings MethodUse Session Bool))
    (s : Session) : Prop where
  id_eq : s.id = id
  user_eq : s.user = firstAccepted turns
  workflow_eq : s.startedWorkflow? = openAfter none (exchangesOf turns)
  orderly : Orderly none (exchangesOf turns)

/-- It remembers as much after one more call. -/
theorem InUse.step (hi : InUse id turns t.before)
    (hy : (t.command.act configuration t.before).Yields t.exchanges (t.reply, t.after)) :
    InUse id (turns ++ [t]) t.after := by
  have hk := MethodUse.keeps hy
  have hx : exchangesOf (turns ++ [t]) = exchangesOf turns ++ t.exchanges := by simp
  refine ⟨hk.id_eq.trans hi.id_eq, ?_, ?_, ?_⟩
  · rw [user_of_turn hy, hi.user_eq, firstAccepted_append]
    simp [firstAccepted]
  · rw [hk.workflow_eq, hi.workflow_eq, hx, openAfter_append]
  · rw [hx, orderly_append, ← hi.workflow_eq]
    exact ⟨hi.orderly, hk.orderly⟩

theorem inUse_of_played {now : Instant}
    (hplay : Played (MethodUse.act configuration) (Session.start id now) turns s) :
    InUse id turns s := by
  induction hplay with
  | nil => exact ⟨rfl, rfl, rfl, trivial⟩
  | snoc _ hy ih => exact ih.step hy

/-- A workflow is only finished right after it was started. -/
theorem Orderly.lastMark_eq {pre post : List (Exchange surroundings)} {x : Exchange surroundings}
    {workflow : Workflow} (ho : Orderly none h) (he : h = pre ++ x :: post)
    (hx : mark? x = some (.finished workflow)) : lastMark pre = some (.started workflow) := by
  subst he
  have hopen := (orderly_append.1 ho).2.1 workflow hx
  rw [openAfter_none] at hopen
  obtain ⟨mark, hmark, hm⟩ := Option.bind_eq_some_iff.1 hopen
  cases mark with
  | started other =>
    cases hm
    exact hmark
  | noDevice => cases hm
  | finished other => cases hm

/-- However the device method is called on a new session, and whatever is answered: a workflow is
finished only if the latest that happened to challenges was its start; everything is started and
finished for the first user whose password was accepted, in this session and for the application that
the host named. -/
theorem challenges_are_used_once {σ τ : Type} {policy : Fido.RetryPolicy} {attributes : Attributes}
    {configuration : Configuration} {setup : Responder surroundings τ} {w₀ : τ}
    (hc : ((DeviceMethod.configure policy attributes).run setup w₀).value = .ok configuration)
    (others : Responder surroundings σ) (uses : List MethodUse) (id : String) (now : Instant) (w : σ) :
    let turns := play (MethodUse.act configuration) others uses (Session.start id now) w
    (∀ pre x post workflow, exchangesOf turns = pre ++ x :: post →
        mark? x = some (.finished workflow) → lastMark pre = some (.started workflow)) ∧
      (∀ pre t post, turns = pre ++ t :: post → ∀ e ∈ t.exchanges, ∀ userId,
        userId? e = some userId → ∃ user, firstAccepted pre = some user ∧
          firstAccepted turns = some user ∧ user.userId = userId) ∧
      ∀ e ∈ exchangesOf turns, ∀ applicationId sessionId,
        startedFor? e = some (applicationId, sessionId) →
          sessionId = id ∧ attributes.present? DeviceMethod.applicationIdKey = some applicationId := by
  intro turns
  have hplay : Played (MethodUse.act configuration) (Session.start id now) turns _ :=
    played_play _ _ _ _ _
  have hy := Program.yields_run setup (DeviceMethod.configure policy attributes) w₀
  rw [hc] at hy
  obtain ⟨applicationId, hpresent, hconfigured⟩ := applicationId_of_configure hy
  refine ⟨fun pre x post workflow he hx => ?_, fun pre t post he e hm userId hu => ?_,
    fun e hm application sessionId hp => ?_⟩
  · exact (inUse_of_played hplay).orderly.lastMark_eq he hx
  · obtain ⟨hpre, hyt, -⟩ := hplay.split he
    have hbefore := inUse_of_played hpre
    obtain ⟨user, hs, rfl⟩ := ((MethodUse.keeps hyt).concerns e hm).user hu
    have hfirst : firstAccepted pre = some user := hbefore.user_eq.symm.trans hs
    refine ⟨user, hfirst, ?_, rfl⟩
    rw [he, firstAccepted_append, hfirst]
    rfl
  · obtain ⟨t, ht, hmt⟩ := List.mem_flatMap.1 hm
    obtain ⟨pre, post, he, hpre, hyt⟩ := hplay.of_mem ht
    obtain ⟨hid, happ⟩ := ((MethodUse.keeps hyt).concerns e hmt).place hp
    refine ⟨hid.trans (inUse_of_played hpre).id_eq, ?_⟩
    rw [hpresent, ← hconfigured, happ]

/-- A device is enrolled after its challenge was issued. -/
theorem enrollment_uses_its_challenge :
    let uses := [.authenticate passwordStep ⟨"alice", "secret"⟩ .empty, .prepare deviceStep .empty,
      .change (.toStep deviceStep), .authenticate deviceStep .blank enrollment]
    let turns := play (MethodUse.act obligingConfiguration) obliging uses
      (Session.start "session" ⟨0⟩) ()
    ∃ pre x post, exchangesOf turns = pre ++ x :: post ∧ mark? x = some (.finished .enroll) ∧
      lastMark pre = some (.started .enroll) := by
  intro uses turns
  have h := challenges_are_used_once configure_obliging obliging uses "session" ⟨0⟩ ()
  let history := exchangesOf turns
  have hsplit : history = history.take 4 ++ history.drop 4 := (List.take_append_drop 4 _).symm
  exact ⟨_, _, _, hsplit, rfl, h.1 _ _ _ _ hsplit rfl⟩

end TwoStepLogin.Login
