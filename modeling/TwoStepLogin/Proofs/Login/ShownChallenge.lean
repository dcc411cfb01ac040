import TwoStepLogin.Proofs.Json.RoundTrip
import TwoStepLogin.Proofs.Login.SingleAttempt

/-!
# The challenge that the page shows

The page of the device step asks what is pending and gets the challenge as the session remembers it:
as a text that is parsed on every read. It is the challenge that the server issued, until a response
to it is handed in; then, and if the server knew no device, there is nothing to show.

* `Login.PageUse` — submitting and reading, in any order;
* `Session.Pending.of`, `Session.Pending.nothing` — what the page may be told;
* `Login.finishes` — a response was handed in;
* `Login.PastPassword`, `Login.past_password_played` — what becomes of a session after its password;
* `Login.Offers` — what the answer to a start leaves to show;
* `Login.page_shows_the_issued_challenge` — the page is told what the server issued.
-/

set_option autoImplicit false

namespace TwoStepLogin

/-! ## Reading a challenge back -/

namespace Session

/-- A challenge stands in the field of its own workflow. -/
def Pending.of : Workflow → Json → Pending
  | .enroll, challenge => ⟨some .enroll, some challenge, none⟩
  | .authenticate, challenge => ⟨some .authenticate, none, some challenge⟩

/-- No workflow is started. -/
def Pending.nothing : Pending := ⟨none, none, none⟩

/-- A stored challenge is read back. -/
theorem challenge?_storeChallenge (s : Session) (w : Workflow) {challenge : Json}
    (hc : challenge.Fits Json.Parser.depthLimit) :
    (s.storeChallenge w challenge).challenge? w = some challenge := by
  rw [challenge?, get?_storeChallenge, Option.bind_some, Json.parse?_compact hc]

theorem challenge?_storeChallenge_other (s : Session) (w : Workflow) (challenge : Json) :
    (s.storeChallenge w challenge).challenge? w.other = none := by
  rw [challenge?, get?_storeChallenge_other, Option.bind_none]

theorem pending_storeChallenge (s : Session) (w : Workflow) {challenge : Json}
    (hc : challenge.Fits Json.Parser.depthLimit) :
    (s.storeChallenge w challenge).pending = .of w challenge := by
  have hown := s.challenge?_storeChallenge w hc
  have hother := s.challenge?_storeChallenge_other w challenge
  cases w with
  | enroll =>
    rw [Workflow.other] at hother
    rw [pending, startedWorkflow?_storeChallenge, hown, hother, Pending.of]
  | authenticate =>
    rw [Workflow.other] at hother
    rw [pending, startedWorkflow?_storeChallenge, hown, hother, Pending.of]

theorem pending_clearPending (s : Session) : s.clearPending.pending = .nothing := by
  have hnone (w : Workflow) : s.clearPending.challenge? w = none := by
    rw [challenge?, get?_clearPending, Option.bind_none]
  rw [pending, startedWorkflow?_clearPending, hnone, hnone, Pending.nothing]

end Session

namespace Login

/-! ## Submitting and reading -/

/-- What a browser does with a session. -/
inductive PageUse where
  | submit (submission : Submission)
  | read

/-- What it is told. -/
inductive PageReply where
  | outcome (outcome : StepOutcome)
  | shown (pending : Session.Pending)

/-- Submissions go through the flow; reading looks at the session. -/
def PageUse.act (configuration : Configuration) : PageUse → Session → Action (PageReply × Session)
  | .submit submission, s => do
    let (outcome, s) ← (deviceFlow configuration).submit submission s
    pure (.outcome outcome, s)
  | .read, s => pure (.shown s.pending, s)

/-- A response to a challenge was handed in. -/
def finishes (h : List (Exchange surroundings)) : Bool := (h.filterMap mark?).any Mark.isFinished

/-- Something was asked of the server. -/
def isCall (e : Exchange surroundings) : Bool :=
  match e.question with
  | .fido _ => true
  | _ => false

variable {configuration : Configuration} {s s' : Session} {h : List (Exchange surroundings)}
  {outcome : StepOutcome} {reply : PageReply} {submission : Submission}

theorem finishes_append (h h' : List (Exchange surroundings)) :
    finishes (h ++ h') = (finishes h || finishes h') := by
  rw [finishes, List.filterMap_append, List.any_append, finishes, finishes]

theorem finishes_finished (workflow : Workflow) (user : User) (token : String)
    (answer : Except Fido.Fault Fido.Status) (h : List (Exchange surroundings)) :
    finishes (finished configuration workflow user token answer :: h) = true := by
  rw [finishes, List.filterMap_cons, mark?_finished]
  rfl

theorem act_submit_yields
    (hy : ((PageUse.submit submission).act configuration s).Yields h (reply, s')) :
    ∃ outcome, ((deviceFlow configuration).submit submission s).Yields h (outcome, s') ∧
      reply = .outcome outcome := by
  obtain ⟨⟨outcome, s₁⟩, h₁, _, rfl, hy₁, rfl, he⟩ := Program.yields_bind.1 hy
  cases he
  exact ⟨outcome, by rwa [List.append_nil], rfl⟩

/-- Reading asks nobody and leaves the session as it is. -/
theorem act_read_yields (hy : (PageUse.read.act configuration s).Yields h (reply, s')) :
    h = [] ∧ s' = s ∧ reply = .shown s.pending := by
  obtain ⟨rfl, he⟩ := hy
  cases he
  exact ⟨rfl, rfl, rfl⟩

/-! ## After the password -/

/-- What a conversation makes of a session that is past its password: without a response handed in it
stays as it is, and with one there is nothing to show any more. -/
structure PastPassword (s : Session) (h : List (Exchange surroundings)) (s' : Session) : Prop where
  step_ne : s'.step ≠ passwordStep
  kept : finishes h = false → s' = s
  cleared : finishes h = true → s'.pending = .nothing

theorem PastPassword.refl (hs : s.step ≠ passwordStep) : PastPassword s [] s :=
  ⟨hs, fun _ => rfl, fun hf => by cases hf⟩

theorem PastPassword.trans {s₁ s₂ : Session} {h₁ h₂ : List (Exchange surroundings)}
    (hp₁ : PastPassword s h₁ s₁) (hp₂ : PastPassword s₁ h₂ s₂) :
    PastPassword s (h₁ ++ h₂) s₂ := by
  refine ⟨hp₂.step_ne, fun hf => ?_, fun hf => ?_⟩
  · rw [finishes_append, Bool.or_eq_false_iff] at hf
    rw [hp₂.kept hf.2, hp₁.kept hf.1]
  · cases hf₂ : finishes h₂ with
    | true => exact hp₂.cleared hf₂
    | false =>
      rw [finishes_append, hf₂, Bool.or_false] at hf
      rw [hp₂.kept hf₂]
      exact hp₁.cleared hf

/-- A response that does not fit is refused without asking anybody; any other is handed in. -/
theorem DeviceChecked.refused_or_finished {p : Parameters} {ok : Bool}
    (hd : DeviceChecked configuration p s h ok s') :
    (ok = false ∧ h = [] ∧ s' = s) ∨ (finishes h = true ∧ s' = s.clearPending) := by
  cases hd with
  | unfit _ => exact .inl ⟨rfl, rfl, rfl⟩
  | judged _ _ => exact .inr ⟨finishes_finished _ _ _ _ _, rfl⟩

theorem PastPassword.of_finished (hs : s'.step ≠ passwordStep) (hf : finishes h = true)
    (hp : s'.pending = .nothing) : PastPassword s h s' :=
  ⟨hs, fun hn => (Bool.false_ne_true (hn.symm.trans hf)).elim, fun _ => hp⟩

theorem DeviceTurn.pastPassword {p : Parameters} (ht : DeviceTurn configuration p s h outcome s')
    (hs : s.step ≠ passwordStep) : PastPassword s h s' := by
  cases ht with
  | outOfOrder _ => exact .refl hs
  | rejected _ hd =>
    obtain ⟨-, rfl, rfl⟩ | ⟨hf, rfl⟩ := hd.refused_or_finished
    · exact .refl hs
    · exact .of_finished hs hf s.pending_clearPending
  | accepted _ hd =>
    obtain ⟨hok, -⟩ | ⟨hf, rfl⟩ := hd.refused_or_finished
    · cases hok
    · refine .of_finished (fun hstep : acknowledgementStep = passwordStep => ?_) hf
        s.pending_clearPending
      cases hstep

/-- After the password no other password is asked for, and only the response counts. -/
theorem pastPassword_of_submit (hs : s.step ≠ passwordStep)
    (hy : ((deviceFlow configuration).submit submission s).Yields h (outcome, s')) :
    PastPassword s h s' := by
  cases submission with
  | credentials c p =>
    have hx : Flow.expects s (Submission.credentials c p).step = false :=
      Flow.expects_eq_false_iff.2 (.inr hs)
    obtain ⟨-, rfl, rfl⟩ := submit_outOfOrder hx hy
    exact .refl hs
  | token p => exact (deviceTurn_of_yields hy).pastPassword hs

theorem pastPassword_of_act {u : PageUse} (hs : s.step ≠ passwordStep)
    (hy : (u.act configuration s).Yields h (reply, s')) : PastPassword s h s' := by
  cases u with
  | submit submission =>
    obtain ⟨outcome, hsubmit, -⟩ := act_submit_yields hy
    exact pastPassword_of_submit hs hsubmit
  | read =>
    obtain ⟨rfl, rfl, -⟩ := act_read_yields hy
    exact .refl hs

/-- The same of any number of submissions and reads. -/
theorem past_password_played {turns : List (Turn surroundings PageUse Session PageReply)}
    (hs : s.step ≠ passwordStep) (hplay : Played (PageUse.act configuration) s turns s') :
    PastPassword s (exchangesOf turns) s' := by
  induction hplay with
  | nil => exact .refl hs
  | @snoc turns t _ hy ih =>
    rw [exchangesOf_append, exchangesOf_cons, exchangesOf_nil, List.append_nil]
    exact ih.trans (pastPassword_of_act ih.step_ne hy)

/-- Only a session past its password has a response handed in. -/
theorem past_password_of_finishes {u : PageUse}
    (hy : (u.act configuration s).Yields h (reply, s')) (hf : finishes h = true) :
    s.step ≠ passwordStep := by
  intro hs
  cases u with
  | submit submission =>
    obtain ⟨outcome, hsubmit, -⟩ := act_submit_yields hy
    cases submission with
    | credentials c p =>
      exact Bool.false_ne_true ((passwordTurn_of_yields hsubmit).not_finished.symm.trans hf)
    | token p =>
      have hx : Flow.expects s (Submission.token p).step = false := by
        rw [Flow.expects_eq_false_iff, hs]
        exact .inr fun he => by cases he
      obtain ⟨-, -, rfl⟩ := submit_outOfOrder hx hsubmit
      cases hf
  | read =>
    obtain ⟨rfl, -⟩ := act_read_yields hy
    cases hf

/-- Once a response was handed in, there is nothing to show for good. -/
theorem pending_of_finishes {u : PageUse} {s'' : Session}
    {turns : List (Turn surroundings PageUse Session PageReply)}
    (hy : (u.act configuration s).Yields h (reply, s')) (hf : finishes h = true)
    (hplay : Played (PageUse.act configuration) s' turns s'') : s''.pending = .nothing := by
  have hpast := pastPassword_of_act (past_password_of_finishes hy hf) hy
  have hstill := past_password_played hpast.step_ne hplay
  cases hb : finishes (exchangesOf turns) with
  | true => exact hstill.cleared hb
  | false =>
    rw [hstill.kept hb]
    exact hpast.cleared hf

/-! ## The started workflow -/

/-- What the answer to a start leaves to show: the challenge, or nothing if the server knew no device. -/
inductive Offers (workflow : Workflow) : Except Fido.Fault Json → Session.Pending → Prop where
  | challenge {challenge : Json} {shown : Session.Pending} :
      (challenge.Fits Json.Parser.depthLimit → shown = .of workflow challenge) →
      Offers workflow (.ok challenge) shown
  | noDevice {message : String} : workflow = .authenticate →
      Offers workflow (.error (.status 404 message)) .nothing

theorem isCall_started (workflow : Workflow) (user : User) (applicationId sessionId : String)
    (answer : Except Fido.Fault Json) :
    isCall (started configuration workflow user applicationId sessionId answer) = true := by
  cases workflow with
  | enroll => rfl
  | authenticate => rfl

/-- Of looking for devices and starting a workflow, only the start is a call. -/
theorem calls_of_started (query : Directory.Query) (found : query.Answer) (workflow : Workflow)
    (user : User) (applicationId sessionId : String) (answer : Except Fido.Fault Json) :
    [told query found, started configuration workflow user applicationId sessionId answer].filter
      isCall = [started configuration workflow user applicationId sessionId answer] := by
  rw [List.filter_cons_of_neg (by exact Bool.false_ne_true),
    List.filter_cons_of_pos (isCall_started _ _ _ _ _), List.filter_nil]

theorem PasswordChecked.filter_isCall {c : Credentials} {ok : Bool}
    (hc : PasswordChecked c s h ok s') : h.filter isCall = [] := by
  cases hc <;> rfl

/-- A device step that is prepared started one workflow, for the session's user and under the session's
identifier, and has to show what the server answered. -/
theorem DevicePrepared.offers (hp : DevicePrepared configuration s h true s') :
    ∃ workflow user applicationId answer, s'.user = some user ∧
      h.filter isCall = [started configuration workflow user applicationId s.id answer] ∧
      Offers workflow answer s'.pending := by
  cases hp with
  | @issued user applicationId devices challenge _ hu _ =>
    exact ⟨workflowFor devices, user, applicationId, .ok challenge, hu,
      calls_of_started (.findDevices _ _) (.ok _) _ _ _ _ _,
      .challenge fun hfits => s.pending_storeChallenge _ hfits⟩
  | @noDevice user applicationId devices message _ hu _ _ =>
    refine ⟨.authenticate, user, applicationId, .error (.status 404 message), hu,
      calls_of_started (.findDevices _ _) (.ok _) _ _ _ _ _, ?_⟩
    rw [s.pending_clearPending]
    exact .noDevice rfl

theorem PasswordTurn.offers {c : Credentials} {step : UInt32} {page : String}
    (ht : PasswordTurn configuration c s h (.nextStep step page) s') :
    s'.step ≠ passwordStep ∧ ∃ workflow user applicationId answer, s'.user = some user ∧
      h.filter isCall = [started configuration workflow user applicationId s.id answer] ∧
      Offers workflow answer s'.pending := by
  cases ht with
  | @prepared h₁ h₂ s₁ s₂ _ hc hp =>
    have hid : s.id = s₁.id := by rw [hc.eq_of_user]
    rw [List.filter_append, hc.filter_isCall, List.nil_append, hid]
    refine ⟨fun hstep : deviceStep = passwordStep => ?_, hp.offers⟩
    cases hstep

/-! ## What the page is told -/

/-- Whatever is submitted to a session and read from it in any order, and whatever directory and server
answer: reading asks nobody and leaves the session as it is; once a response was handed in there is
nothing to show; and after a password that leads to the device step, which started one workflow for
this login, every read until then shows what the server answered to the start: its challenge in the
field of the workflow, and nothing if it knew no device. -/
theorem page_shows_the_issued_challenge {σ : Type} (configuration : Configuration)
    (others : Responder surroundings σ) (uses : List PageUse) (s : Session) (w : σ) :
    let turns := play (PageUse.act configuration) others uses s w
    (∀ t ∈ turns, t.command = .read → t.exchanges = [] ∧ t.after = t.before) ∧
      (∀ earlier t later, turns = earlier ++ t :: later → finishes t.exchanges = true →
        ∀ u ∈ later, u.command = .read → u.reply = .shown .nothing) ∧
      ∀ earlier t later c p step page, turns = earlier ++ t :: later →
        t.command = .submit (.credentials c p) → t.reply = .outcome (.nextStep step page) →
        ∃ workflow user applicationId answer, t.after.user = some user ∧
          t.exchanges.filter isCall =
            [started configuration workflow user applicationId t.before.id answer] ∧
          ∀ between u rest, later = between ++ u :: rest →
            finishes (exchangesOf between) = false → u.command = .read →
            ∃ shown, u.reply = .shown shown ∧ Offers workflow answer shown := by
  intro turns
  have hplay : Played (PageUse.act configuration) s turns _ := played_play _ _ _ _ _
  refine ⟨fun t ht hread => ?_, fun earlier t later he hf u hu hread => ?_,
    fun earlier t later c p step page he hcommand hreply => ?_⟩
  · obtain ⟨_, _, _, _, hy⟩ := hplay.of_mem ht
    rw [hread] at hy
    obtain ⟨hnobody, hsame, -⟩ := act_read_yields hy
    exact ⟨hnobody, hsame⟩
  · obtain ⟨-, hy, hlater⟩ := hplay.split he
    obtain ⟨between, _, _, hbetween, hyu⟩ := hlater.of_mem hu
    rw [hread] at hyu
    rw [(act_read_yields hyu).2.2, pending_of_finishes hy hf hbetween]
  · obtain ⟨-, hy, hlater⟩ := hplay.split he
    rw [hcommand] at hy
    obtain ⟨outcome, hsubmit, ho⟩ := act_submit_yields hy
    rw [hreply] at ho
    cases ho
    obtain ⟨hstep, workflow, user, applicationId, answer, hu, hcalls, hoffers⟩ :=
      (passwordTurn_of_yields hsubmit).offers
    refine ⟨workflow, user, applicationId, answer, hu, hcalls, fun between u rest hb hf hread => ?_⟩
    obtain ⟨hbetween, hyu, -⟩ := hlater.split hb
    rw [hread] at hyu
    refine ⟨_, (act_read_yields hyu).2.2, ?_⟩
    rw [(past_password_played hstep hbetween).kept hf]
    exact hoffers

/-- A challenge with a text that has to be escaped and with numbers on either side of zero. -/
def exactingChallenge : Json :=
  .object [("nonce", .string "\"quoted\"\n"), ("range", .array [.number (.integer (-2)), .ofNat 40])]

theorem exactingChallenge_fits : exactingChallenge.Fits Json.Parser.depthLimit := by
  refine .object (by decide) (List.forall_mem_cons.2 ⟨.string _, List.forall_mem_singleton.2 ?_⟩)
  refine .array (List.forall_mem_cons.2 ⟨?_, List.forall_mem_singleton.2 ?_⟩)
  · exact .integer (by decide) (by decide)
  · exact .integer (by decide) (by decide)

/-- A server that issues this challenge to new devices. -/
def exacting : Responder surroundings Unit where
  respond
    | .fido (.startRegistration ..), w => (Except.ok exactingChallenge, w)
    | question, w => obliging.respond question w

/-- Alice's page shows the challenge for her new device, also after a response that does not fit, and
nothing once the device is enrolled. -/
theorem enrollment_page_shows_its_challenge :
    let uses := [.submit (.credentials ⟨"alice", "secret"⟩ .empty), .submit (.token .empty), .read,
      .submit (.token enrollment), .read]
    let turns := play (PageUse.act obligingConfiguration) exacting uses (Session.start "session" ⟨0⟩) ()
    ∃ login misfit first finish last, turns = [login, misfit, first, finish, last] ∧
      first.reply = .shown (.of .enroll exactingChallenge) ∧ last.reply = .shown .nothing := by
  intro uses turns
  obtain ⟨-, hgone, hshown⟩ := page_shows_the_issued_challenge obligingConfiguration exacting uses
    (Session.start "session" ⟨0⟩) ()
  refine ⟨turns[0], turns[1], turns[2], turns[3], turns[4], rfl, ?_, ?_⟩
  · obtain ⟨workflow, ⟨userName, userId, inum⟩, applicationId, answer, -, hcalls, hreads⟩ :=
      hshown [] turns[0] [turns[1], turns[2], turns[3], turns[4]] _ _ _ _ rfl rfl rfl
    obtain ⟨shown, hreply, hoffers⟩ := hreads [turns[1]] turns[2] [turns[3], turns[4]] rfl rfl rfl
    have hstart : [started obligingConfiguration .enroll ⟨"alice", "user", "inum"⟩
        "https://app.example" "session" (.ok exactingChallenge)] =
        [started obligingConfiguration workflow ⟨userName, userId, inum⟩ applicationId "session"
          answer] := hcalls
    cases workflow with
    | authenticate => cases hstart
    | enroll =>
      cases hstart
      cases hoffers with
      | challenge hfits => rw [hreply, hfits exactingChallenge_fits]
  · exact hgone [turns[0], turns[1], turns[2]] turns[3] [turns[4]] rfl rfl turns[4]
      List.mem_cons_self rfl

end Login

end TwoStepLogin
