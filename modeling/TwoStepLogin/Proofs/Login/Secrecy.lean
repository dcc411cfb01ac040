import TwoStepLogin.Proofs.Effect.Discreet
import TwoStepLogin.Proofs.Login.ShownChallenge

/-!
# Passwords and responses stay hidden

Two runs of the same submission, with different secrets. A password is put into one question to the
directory, a signed response into one call to the server; what follows is told the answer only. So
whoever reads the records, the session or what is left of the directory learns no more of a secret
than the answer to that question, and the other party learns nothing else either.

The server may remember a response. That makes no difference to the login, because the server is not
asked again.

* `Login.passwordVeil`, `Login.responseVeil` — the questions with the secrets;
* `Login.submitCredentials_discreet`, `Login.submitToken_discreet` — nothing else knows the secrets;
* `Login.parties` — a directory and a server with a state each;
* `Login.secrets_leave_no_trace` — two runs.
-/

set_option autoImplicit false

namespace TwoStepLogin

open Program (AsksOnly Discreet)

namespace Login

/-! ## The password -/

/-- The password as it is put to the directory. -/
def passwordVeil (name : String) : Veil surroundings {password : String // password ≠ ""} Bool where
  question password := .directory (.authenticate name password.1)
  read _ accepted := accepted

/-- The password step puts the password to the directory, if to anybody. -/
theorem checkPassword_discreet (name : String) (s : Session) :
    Discreet (passwordVeil name) (fun _ => True) fun password =>
      DeviceMethod.checkPassword ⟨name, password.1⟩ s := by
  by_cases hn : name = ""
  · have hblank (password : {p : String // p ≠ ""}) :
        DeviceMethod.checkPassword ⟨name, password.1⟩ s =
          DeviceMethod.checkPassword ⟨name, ""⟩ s := by
      simp [DeviceMethod.checkPassword, hn]
    simp only [hblank]
    exact .unused _
  · have hasked (password : {p : String // p ≠ ""}) :
        (name.isEmpty || password.1.isEmpty) = false := by
      simp [hn, password.2]
    simp only [DeviceMethod.checkPassword, hasked, Bool.false_eq_true, if_false, Program.log_bind]
    refine .note _ (.asked ?_ fun _ _ => Program.asksOnly_true _)
    intro _ _ (accepted : Bool) (accepted' : Bool) (hsame : accepted = accepted')
    subst hsame
    cases accepted with
    | false => rfl
    | true =>
      refine congrArg (Program.ask (I := surroundings) (.directory (.findUser name)))
        (funext fun found => ?_)
      rcases found with fault | _ | user <;> rfl

variable {configuration : Configuration} {p : Parameters} {s : Session}

/-- So does a submission of user name and password. -/
theorem submitCredentials_discreet (configuration : Configuration) (p : Parameters) (s : Session)
    (name : String) : Discreet (passwordVeil name) (fun _ => True) fun password =>
      (deviceFlow configuration).submitCredentials ⟨name, password.1⟩ p s := by
  cases he : Flow.expects s passwordStep with
  | false =>
    simp only [Flow.submitCredentials, he, Bool.false_eq_true, if_false]
    exact .unused _
  | true =>
    simp only [Flow.submitCredentials, he, if_true]
    exact (checkPassword_discreet name s).bind fun _ => Program.asksOnly_true _

/-! ## The signed response -/

/-- Whether the directory is asked. -/
def IsQuery : Question → Prop
  | .directory _ => True
  | _ => False

/-- The fields of a submitted response: the response itself, and the workflow it is for. -/
structure ResponseForm (tag : Option String) where
  parameters : Parameters
  token : String
  token_eq : parameters.firstValue? DeviceMethod.tokenField = some token
  tag_eq : parameters.firstValue? DeviceMethod.workflowField = tag

variable {tag : Option String} {workflow : Workflow} {user : User}

/-- The call that puts a response to the server. -/
def finishCall (configuration : Configuration) (workflow : Workflow) (user : User)
    (token : String) : Fido.Call :=
  match workflow with
  | .enroll => .finishRegistration configuration.metadata user.userId token
  | .authenticate => .finishAuthentication configuration.metadata user.userId token

/-- The response as it is put to the server. -/
def responseVeil (configuration : Configuration) (workflow : Workflow) (user : User)
    (tag : Option String) :
    Veil surroundings (ResponseForm tag) (Except Fido.Fault Fido.Status) :=
  match workflow with
  | .enroll =>
    ⟨fun form => .fido (.finishRegistration configuration.metadata user.userId form.token),
      fun _ answer => answer⟩
  | .authenticate =>
    ⟨fun form => .fido (.finishAuthentication configuration.metadata user.userId form.token),
      fun _ answer => answer⟩

theorem verdict_asksOnly (allowed : Question → Prop) (kind : String)
    (answer : Except Fido.Fault Fido.Status) :
    AsksOnly (I := surroundings) allowed (Fido.Ceremony.verdict kind answer) := by
  cases answer <;> trivial

theorem finish_discreet :
    Discreet (responseVeil configuration workflow user tag) IsQuery fun form =>
      DeviceMethod.finish configuration workflow user form.token := by
  cases workflow with
  | enroll =>
    have hcall : Discreet (responseVeil configuration .enroll user tag) IsQuery fun form =>
        Fido.Ceremony.finishRegistration configuration.metadata user.userId form.token :=
      .reading (verdict_asksOnly IsQuery "Registration")
    refine .bind (.note _ hcall) fun judged => ?_
    rcases judged with failure | _ | _ <;> trivial
  | authenticate =>
    have hcall : Discreet (responseVeil configuration .authenticate user tag) IsQuery fun form =>
        Fido.Ceremony.finishAuthentication configuration.metadata user.userId form.token :=
      .reading (verdict_asksOnly IsQuery "Authentication")
    refine .bind (.note _ hcall) fun judged => ?_
    rcases judged with failure | _ | _ <;> trivial

theorem recordEnrollment_asksOnly :
    (DeviceMethod.recordEnrollment configuration user).AsksOnly IsQuery := by
  rw [DeviceMethod.recordEnrollment]
  split
  · trivial
  · refine ⟨trivial, fun recorded => ?_⟩
    rcases recorded with fault | _ <;> trivial

theorem finishStarted_discreet :
    Discreet (responseVeil configuration workflow user tag) IsQuery fun form =>
      DeviceMethod.finishStarted configuration workflow user form.token s := by
  refine .bind finish_discreet fun accepted => ?_
  split
  · exact recordEnrollment_asksOnly.bind fun _ => trivial
  · trivial

/-- The device step either does without the response, or puts it to the server once, for the user
and the workflow of the session. -/
theorem checkDevice_discreet (configuration : Configuration) (s : Session) (tag : Option String) :
    (∃ program, ∀ form : ResponseForm tag,
      DeviceMethod.checkDevice configuration form.parameters s = program) ∨
    ∃ workflow user, s.startedWorkflow? = some workflow ∧ s.user = some user ∧
      Discreet (responseVeil configuration workflow user tag) IsQuery fun form =>
        DeviceMethod.checkDevice configuration form.parameters s := by
  simp only [DeviceMethod.checkDevice, ResponseForm.token_eq, ResponseForm.tag_eq]
  cases tag with
  | none =>
    left
    dsimp only
    exact ⟨_, fun _ => rfl⟩
  | some tag =>
    cases hu : s.user with
    | none =>
      left
      dsimp only
      exact ⟨_, fun _ => rfl⟩
    | some user =>
      dsimp only
      cases hr : Workflow.read tag with
      | error unknown =>
        left
        dsimp only
        exact ⟨_, fun _ => rfl⟩
      | ok workflow =>
        dsimp only
        cases hs : s.startedWorkflow? with
        | none =>
          left
          dsimp only
          exact ⟨_, fun _ => rfl⟩
        | some started =>
          by_cases he : started = workflow
          · right
            subst he
            simp only [if_true]
            exact ⟨started, user, rfl, rfl, .note _ finishStarted_discreet⟩
          · left
            simp only [if_neg he]
            exact ⟨_, fun _ => rfl⟩

/-- After the device step nobody is asked any more. -/
theorem advance_asksOnly (s : Session) (allowed : Question → Prop) :
    AsksOnly (I := surroundings) allowed ((deviceFlow configuration).advance p s deviceStep) := by
  trivial

/-- The device method does not look at the fields when it prepares a step. -/
theorem advance_form (form : ResponseForm tag) (s : Session) (step : UInt32) :
    (deviceFlow configuration).advance form.parameters s step =
      (deviceFlow configuration).advance .empty s step := rfl

/-- The same of a submission of the response. -/
theorem submitToken_discreet (configuration : Configuration) (s : Session) (tag : Option String) :
    (∃ program, ∀ form : ResponseForm tag,
      (deviceFlow configuration).submitToken form.parameters s = program) ∨
    ∃ workflow user, s.startedWorkflow? = some workflow ∧ s.user = some user ∧
      Discreet (responseVeil configuration workflow user tag) IsQuery fun form =>
        (deviceFlow configuration).submitToken form.parameters s := by
  simp only [Flow.submitToken, advance_form]
  cases he : Flow.expects s deviceStep with
  | false =>
    simp only [Bool.false_eq_true, if_false]
    exact .inl ⟨_, fun _ => rfl⟩
  | true =>
    simp only [if_true]
    obtain ⟨program, hsame⟩ | ⟨workflow, user, hs, hu, hdiscreet⟩ :=
      checkDevice_discreet configuration s tag
    · left
      have hcheck (form : ResponseForm tag) :
          deviceMethod.authenticate configuration .blank form.parameters s deviceStep = program :=
        hsame form
      simp only [hcheck]
      exact ⟨_, fun _ => rfl⟩
    · refine .inr ⟨workflow, user, hs, hu, hdiscreet.bind fun ended => ?_⟩
      obtain ⟨accepted, s'⟩ := ended
      cases accepted with
      | false => trivial
      | true => exact advance_asksOnly s' IsQuery

end Login

/-! ## Two runs -/

/-- What a directory is asked. -/
def Directory.queries : Interface := ⟨Directory.Query, Directory.Query.Answer⟩

/-- What a FIDO server is asked. -/
def Fido.calls : Interface := ⟨Fido.Call, Fido.Call.Answer⟩

namespace Login

variable {δ φ : Type}

/-- A directory and a FIDO server with a state each; waiting changes nothing. -/
def parties (directory : Responder Directory.queries δ) (server : Responder Fido.calls φ) :
    Responder surroundings (δ × φ) where
  respond
    | .directory query, (d, f) =>
      let answered := directory.respond query d
      (answered.1, (answered.2, f))
    | .fido call, (d, f) =>
      let answered := server.respond call f
      (answered.1, (d, answered.2))
    | .pause _, w => ((), w)

/-- A program that asks only the directory does not depend on the server. -/
theorem run_of_asksOnly_isQuery {α : Type} {program : Action α} (hp : program.AsksOnly IsQuery)
    (directory : Responder Directory.queries δ) (server : Responder Fido.calls φ) (d : δ)
    (f f' : φ) :
    let o (f : φ) := program.run (parties directory server) (d, f)
    (o f).value = (o f').value ∧ (o f).state.1 = (o f').state.1 ∧ (o f).events = (o f').events := by
  induction program generalizing d with
  | done a => exact ⟨rfl, rfl, rfl⟩
  | note entry p ih =>
    obtain ⟨hvalue, hstate, hevents⟩ := ih hp d
    exact ⟨hvalue, hstate, congrArg (List.cons _) hevents⟩
  | ask question next ih =>
    cases question with
    | directory query =>
      obtain ⟨hvalue, hstate, hevents⟩ := ih _ (hp.2 _) (directory.respond query d).2
      exact ⟨hvalue, hstate, congrArg (List.cons _) hevents⟩
    | fido call => cases hp.1
    | pause milliseconds => cases hp.1

/-- What the directory says to a name and a password, and its state then. -/
def passwordVerdict (directory : Responder Directory.queries δ) (name password : String) (d : δ) :
    Bool × δ :=
  directory.respond (.authenticate name password) d

/-- A directory in memory is not changed by the question, so that only its answer counts. -/
example (d : Directory) (name password : String) :
    passwordVerdict ⟨Directory.respond⟩ name password d = (d.accepts name password, d) := rfl

/-- What the server says to a response. -/
def responseVerdict (server : Responder Fido.calls φ) (configuration : Configuration)
    (workflow : Workflow) (user : User) (token : String) (f : φ) : Except Fido.Fault Fido.Status :=
  match workflow with
  | .enroll => (server.respond (.finishRegistration configuration.metadata user.userId token) f).1
  | .authenticate =>
    (server.respond (.finishAuthentication configuration.metadata user.userId token) f).1

variable (configuration : Configuration) (directory : Responder Directory.queries δ)
  (server : Responder Fido.calls φ) (s : Session) (d : δ) (f : φ)

/-- Two passwords of which the directory says the same. -/
theorem passwords_alike (name : String) (p : Parameters) {password password' : String}
    (hp : password ≠ "") (hp' : password' ≠ "")
    (hsame :
      passwordVerdict directory name password d = passwordVerdict directory name password' d) :
    let o (password : String) :=
      ((deviceFlow configuration).submitCredentials ⟨name, password⟩ p s).run
        (parties directory server) (d, f)
    (o password).value = (o password').value ∧ (o password).state = (o password').state ∧
      (o password).records = (o password').records ∧
      (o password).exchanges.filter isCall = (o password').exchanges.filter isCall := by
  intro o
  have hanswer : (passwordVerdict directory name password d).1 =
    (passwordVerdict directory name password' d).1 := congrArg Prod.fst hsame
  have hstate : (passwordVerdict directory name password d).2 =
    (passwordVerdict directory name password' d).2 := congrArg Prod.snd hsame
  obtain heq | ⟨notes, rest, -, hrun, hrun'⟩ :=
    (submitCredentials_discreet configuration p s name).runs
      (parties directory server) (d, f) ⟨password, hp⟩ ⟨password', hp'⟩ hanswer
  · have heq : o password = o password' := heq
    rw [heq]
    exact ⟨rfl, rfl, rfl, rfl⟩
  · have hleft : o password = ((rest.run (parties directory server)
        ((passwordVerdict directory name password d).2, f)).after
          (.asked (I := surroundings) (.directory (.authenticate name password)) _)).afterNotes
            notes := hrun
    have hright : o password' = ((rest.run (parties directory server)
        ((passwordVerdict directory name password' d).2, f)).after
          (.asked (I := surroundings) (.directory (.authenticate name password')) _)).afterNotes
            notes := hrun'
    rw [hleft, hright, hstate]
    refine ⟨rfl, rfl, ?_, ?_⟩
    · rw [Outcome.afterNotes_records, Outcome.afterNotes_records]
      rfl
    · rw [Outcome.afterNotes_exchanges, Outcome.afterNotes_exchanges]
      rfl

theorem responseVeil_question {tag : Option String} (workflow : Workflow) (user : User)
    (form : ResponseForm tag) : (responseVeil configuration workflow user tag).question form =
      .fido (finishCall configuration workflow user form.token) := by
  cases workflow <;> rfl

/-- Two responses of which the server says the same. -/
theorem responses_alike {tag : Option String} (form form' : ResponseForm tag)
    (hsame : ∀ workflow user, s.startedWorkflow? = some workflow → s.user = some user →
      responseVerdict server configuration workflow user form.token f =
        responseVerdict server configuration workflow user form'.token f) :
    let o (form : ResponseForm tag) :=
      ((deviceFlow configuration).submitToken form.parameters s).run
        (parties directory server) (d, f)
    (o form).value = (o form').value ∧ (o form).state.1 = (o form').state.1 ∧
      (o form).records = (o form').records ∧
      ((o form).questions = (o form').questions ∨
        ∃ workflow user queries, (∀ query ∈ queries, IsQuery query) ∧
          (o form).questions =
            .fido (finishCall configuration workflow user form.token) :: queries ∧
          (o form').questions =
            .fido (finishCall configuration workflow user form'.token) :: queries) := by
  intro o
  obtain ⟨program, hconstant⟩ | ⟨workflow, user, hs, hu, hdiscreet⟩ :=
    submitToken_discreet configuration s tag
  · have heq : o form = o form' := by
      simp only [o, hconstant]
    rw [heq]
    exact ⟨rfl, rfl, rfl, .inl rfl⟩
  · have hanswers := hsame workflow user hs hu
    obtain heq | ⟨notes, rest, hrest, hrun, hrun'⟩ := hdiscreet.runs (parties directory server)
      (d, f) form form' (by cases workflow <;> exact hanswers)
    · have heq : o form = o form' := heq
      rw [heq]
      exact ⟨rfl, rfl, rfl, .inl rfl⟩
    -- The server may have changed in different ways, but it is not asked again.
    have hstate (form : ResponseForm tag) : ∃ f', ((parties directory server).respond
        ((responseVeil configuration workflow user tag).question form) (d, f)).2 = (d, f') := by
      cases workflow <;> exact ⟨_, rfl⟩
    obtain ⟨g, hg⟩ := hstate form
    obtain ⟨g', hg'⟩ := hstate form'
    rw [hg] at hrun
    rw [hg'] at hrun'
    have hleft : o form = _ := hrun
    have hright : o form' = _ := hrun'
    obtain ⟨hvalue, hdirectory, hevents⟩ :=
      run_of_asksOnly_isQuery hrest directory server d g g'
    rw [hleft, hright]
    refine ⟨hvalue, hdirectory, ?_, .inr ⟨workflow, user, _,
      hrest.questions_run (parties directory server) (d, g), ?_, ?_⟩⟩
    · rw [Outcome.afterNotes_records, Outcome.afterNotes_records, Outcome.after_asked_records,
        Outcome.after_asked_records]
      exact congrArg (notes ++ List.filterMap Event.record? ·) hevents
    · rw [Outcome.afterNotes_questions, Outcome.after_asked_questions, responseVeil_question]
    · rw [Outcome.afterNotes_questions, Outcome.after_asked_questions, responseVeil_question]
      exact congrArg (_ :: List.filterMap Event.question? ·) hevents.symm

/-- Neither a password nor a response shows in what a login leaves behind. Two passwords of which
the directory says the same lead to the same outcome, session, states, records and calls; two
responses of which the server says the same lead to the same outcome, session, directory and
records, and nobody but the server sees a difference. -/
theorem secrets_leave_no_trace :
    (∀ (name password password' : String) (p : Parameters), password ≠ "" → password' ≠ "" →
      passwordVerdict directory name password d = passwordVerdict directory name password' d →
      let o (password : String) :=
        ((deviceFlow configuration).submitCredentials ⟨name, password⟩ p s).run
          (parties directory server) (d, f)
      (o password).value = (o password').value ∧ (o password).state = (o password').state ∧
        (o password).records = (o password').records ∧
        (o password).exchanges.filter isCall = (o password').exchanges.filter isCall) ∧
    ∀ (p p' : Parameters) (token token' : String),
      p.firstValue? DeviceMethod.tokenField = some token →
      p'.firstValue? DeviceMethod.tokenField = some token' →
      p.firstValue? DeviceMethod.workflowField = p'.firstValue? DeviceMethod.workflowField →
      (∀ workflow user, s.startedWorkflow? = some workflow → s.user = some user →
        responseVerdict server configuration workflow user token f =
          responseVerdict server configuration workflow user token' f) →
      let o (p : Parameters) := ((deviceFlow configuration).submitToken p s).run
        (parties directory server) (d, f)
      (o p).value = (o p').value ∧ (o p).state.1 = (o p').state.1 ∧
        (o p).records = (o p').records ∧
        ((o p).questions = (o p').questions ∨
          ∃ workflow user queries, (∀ query ∈ queries, IsQuery query) ∧
            (o p).questions = .fido (finishCall configuration workflow user token) :: queries ∧
            (o p').questions =
              .fido (finishCall configuration workflow user token') :: queries) := by
  constructor
  · intro name password password' p hp hp' hsame
    exact passwords_alike configuration directory server s d f name p hp hp' hsame
  · intro p p' token token' htoken htoken' htag hsame
    exact responses_alike configuration directory server s d f
      ⟨p, token, htoken, htag⟩ ⟨p', token', htoken', rfl⟩ hsame

/-- A directory that knows everybody, and counts what it is asked. -/
def counting : Responder Directory.queries Nat where
  respond
    | .authenticate _ _, n => (true, n + 1)
    | .findUser name, n => (Except.ok (some ⟨name, "user", "inum"⟩), n + 1)
    | .findDevices _ _, n => (Except.ok [], n + 1)
    | .record _, n => (Except.ok (), n + 1)

/-- A server that accepts everything. -/
def agreeable : (call : Fido.Call) → call.Answer
  | .fetchMetadata url => Except.ok ⟨"1.0", url, "enroll", "authenticate"⟩
  | .startRegistration .. => Except.ok (Json.object [])
  | .startAuthentication .. => Except.ok (Json.object [])
  | .finishRegistration .. => Except.ok ⟨"success", none⟩
  | .finishAuthentication .. => Except.ok ⟨"success", none⟩

/-- Such a server that remembers what it is asked. -/
def remembering : Responder Fido.calls (List Fido.Call) where
  respond call calls := (agreeable call, calls.concat call)

/-- Fields that differ from `enrollment` in the response. -/
def forgedEnrollment : Parameters :=
  .ofPairs [(DeviceMethod.tokenField, "forged"), (DeviceMethod.workflowField, "enroll")]

/-- Alice at her device step, with a challenge for a new device. -/
def challengedSession : Session :=
  { Session.start "session" ⟨0⟩ with user := some ⟨"alice", "user", "inum"⟩, step := deviceStep
    }.storeChallenge .enroll (.object [])

/-- Alice gets to her device step with either of two passwords, and enrols a device with either of
two responses; the records do not tell which it was, though the server remembers. -/
theorem alices_secrets_leave_no_trace :
    let tried (password : String) :=
      ((deviceFlow obligingConfiguration).submitCredentials ⟨"alice", password⟩ .empty
        (Session.start "session" ⟨0⟩)).run (parties counting remembering) (0, [])
    let sent (p : Parameters) :=
      ((deviceFlow obligingConfiguration).submitToken p challengedSession).run
        (parties counting remembering) (0, [])
    (tried "one").records = (tried "other").records ∧
      (tried "one").value.1 = .nextStep deviceStep DeviceMethod.devicePage ∧
      (sent enrollment).records = (sent forgedEnrollment).records ∧
      (sent enrollment).value.1 = .completed ∧
      (sent enrollment).state.2 =
        [.finishRegistration obligingConfiguration.metadata "user" "signed"] ∧
      (sent forgedEnrollment).state.2 =
        [.finishRegistration obligingConfiguration.metadata "user" "forged"] := by
  intro tried sent
  obtain ⟨-, -, htried, -⟩ := (secrets_leave_no_trace obligingConfiguration counting remembering
    (Session.start "session" ⟨0⟩) 0 []).1 "alice" "one" "other" .empty (by decide) (by decide) rfl
  have hverdicts (workflow : Workflow) (user : User) :
      responseVerdict remembering obligingConfiguration workflow user "signed" [] =
        responseVerdict remembering obligingConfiguration workflow user "forged" [] := by
    cases workflow <;> rfl
  obtain ⟨-, -, hsent, -⟩ := (secrets_leave_no_trace obligingConfiguration counting remembering
    challengedSession 0 []).2 enrollment forgedEnrollment "signed" "forged" rfl rfl rfl
      fun workflow user _ _ => hverdicts workflow user
  exact ⟨htried, rfl, hsent, rfl, rfl, rfl⟩

end Login

end TwoStepLogin
