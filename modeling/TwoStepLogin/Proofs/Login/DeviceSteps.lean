import TwoStepLogin.Login.DeviceMethod
import TwoStepLogin.Proofs.Effect.Yields

/-!
# What the steps of the device method can do

Every step questions the directory and the FIDO server, and may end in many places. For each step
one relation lists all of its ends, with the exchanges that lead there, the verdict and the session
that is left; all later arguments are case distinctions over these relations.

* `Login.told`, `Login.called`, `Login.started`, `Login.finished` — exchanges with the directory and
  with the FIDO server;
* `Login.PasswordChecked` — the ends of the password step;
* `Login.DevicePrepared` — the ends of the preparation of the device step;
* `Login.DeviceChecked` — the ends of the device step.
-/

set_option autoImplicit false

namespace TwoStepLogin

/-- A field's first value is never empty. -/
theorem Parameters.ne_empty_of_firstValue? {p : Parameters} {name value : String}
    (h : p.firstValue? name = some value) : value ≠ "" := by
  unfold Parameters.firstValue? at h
  split at h
  · cases h
  · split at h
    · cases h
    · rename_i hv
      cases h
      rintro rfl
      exact hv rfl

theorem Workflow.name_injective {v w : Workflow} (h : v.name = w.name) : v = w := by
  rw [← Option.some.injEq, ← ofName?_name v, h, ofName?_name]

theorem Session.id?_eq_some_iff {s : Session} {id : String} :
    s.id? = some id ↔ s.id = id ∧ id ≠ "" := by
  unfold Session.id?
  constructor
  · intro h
    split at h
    · cases h
    · rename_i hne
      cases h
      exact ⟨rfl, fun he => hne (String.isEmpty_iff.2 he)⟩
  · rintro ⟨rfl, hne⟩
    exact if_neg fun he => hne (String.isEmpty_iff.1 he)

theorem Session.id?_eq_none_iff {s : Session} : s.id? = none ↔ s.id = "" := by
  unfold Session.id?
  rw [ite_eq_left_iff, ← String.isEmpty_iff]
  simp

namespace Login

/-! ## Exchanges -/

/-- The directory was asked and told this. -/
def told (query : Directory.Query) (answer : query.Answer) : Exchange surroundings :=
  ⟨.directory query, answer⟩

/-- The FIDO server was called and answered this. -/
def called (call : Fido.Call) (answer : call.Answer) : Exchange surroundings :=
  ⟨.fido call, answer⟩

/-- The workflow of a user with these devices. -/
def workflowFor : List DeviceRegistration → Workflow
  | [] => .enroll
  | _ :: _ => .authenticate

/-- A workflow was started at the FIDO server, with this answer. -/
def started (configuration : Configuration) (workflow : Workflow) (user : User)
    (applicationId sessionId : String) (answer : Except Fido.Fault Json) : Exchange surroundings :=
  match workflow with
  | .enroll =>
    called (.startRegistration configuration.metadata user.userId applicationId sessionId) answer
  | .authenticate =>
    called (.startAuthentication configuration.metadata user.userId none applicationId sessionId)
      answer

/-- A workflow was finished at the FIDO server, with this answer. -/
def finished (configuration : Configuration) (workflow : Workflow) (user : User) (token : String)
    (answer : Except Fido.Fault Fido.Status) : Exchange surroundings :=
  match workflow with
  | .enroll => called (.finishRegistration configuration.metadata user.userId token) answer
  | .authenticate => called (.finishAuthentication configuration.metadata user.userId token) answer

/-! ## The password step -/

/-- The ends of the password step. -/
inductive PasswordChecked (c : Credentials) (s : Session) :
    List (Exchange surroundings) → Bool → Session → Prop where
  /-- Name or password is empty: nobody is asked. -/
  | blank : c.userName = "" ∨ c.password = "" → PasswordChecked c s [] false s
  | rejected : PasswordChecked c s [told (.authenticate c.userName c.password) false] false s
  /-- The directory accepts the password but resolves no user. -/
  | lost {found : Except Directory.Fault (Option User)} : (∀ user, found ≠ .ok (some user)) →
      PasswordChecked c s [told (.authenticate c.userName c.password) true,
        told (.findUser c.userName) found] false s
  /-- The session belongs to someone else already. -/
  | occupied {user bound : User} : s.user = some bound → bound ≠ user →
      PasswordChecked c s [told (.authenticate c.userName c.password) true,
        told (.findUser c.userName) (.ok (some user))] false s
  | bound {user : User} : c.userName ≠ "" → c.password ≠ "" →
      s.user = none ∨ s.user = some user →
      PasswordChecked c s [told (.authenticate c.userName c.password) true,
        told (.findUser c.userName) (.ok (some user))] true { s with user := some user }

theorem yields_bindUser {I : Interface} {s s' : Session} {user : User} {h : List (Exchange I)}
    {ok : Bool} (hy : (s.bindUser user : Program I (Bool × Session)).Yields h (ok, s')) :
    h = [] ∧ ((∃ bound, s.user = some bound ∧ bound ≠ user ∧ ok = false ∧ s' = s) ∨
      ((s.user = none ∨ s.user = some user) ∧ ok = true ∧ s' = { s with user := some user })) := by
  unfold Session.bindUser at hy
  split at hy
  · rename_i hn
    obtain ⟨rfl, he⟩ := hy
    cases he
    exact ⟨rfl, .inr ⟨.inl hn, rfl, rfl⟩⟩
  · rename_i bound hb
    split at hy
    · rename_i hbu
      subst hbu
      obtain ⟨rfl, he⟩ := hy
      cases he
      refine ⟨rfl, .inr ⟨.inr hb, rfl, ?_⟩⟩
      rw [← hb]
    · rename_i hbu
      obtain ⟨rfl, he⟩ := hy
      cases he
      exact ⟨rfl, .inl ⟨bound, hb, hbu, rfl, rfl⟩⟩

/-- The password step has no other ends. -/
theorem checkPassword_yields {c : Credentials} {s s' : Session} {h : List (Exchange surroundings)}
    {ok : Bool} (hy : (DeviceMethod.checkPassword c s).Yields h (ok, s')) :
    PasswordChecked c s h ok s' := by
  unfold DeviceMethod.checkPassword at hy
  simp only [Program.log_bind, Program.yields_note] at hy
  split at hy
  · rename_i hb
    obtain ⟨rfl, he⟩ := hy
    cases he
    exact .blank (by simpa using hb)
  · rename_i hb
    obtain ⟨accepted, h₁, rfl, hy⟩ := hy
    cases accepted with
    | false =>
      obtain ⟨rfl, he⟩ := hy
      cases he
      exact .rejected
    | true =>
      obtain ⟨found, h₂, rfl, hy⟩ := hy
      rcases found with fault | _ | user
      · obtain ⟨rfl, he⟩ := hy
        cases he
        exact .lost (by rintro user ⟨⟩)
      · obtain ⟨rfl, he⟩ := hy
        cases he
        exact .lost (by rintro user ⟨⟩)
      · obtain ⟨rfl, ⟨bound, hs, hne, rfl, rfl⟩ | ⟨hs, rfl, rfl⟩⟩ := yields_bindUser hy
        · exact .occupied hs hne
        · simp only [Bool.or_eq_true, String.isEmpty_iff, not_or] at hb
          exact .bound hb.1 hb.2 hs

/-! ## The preparation of the device step -/

/-- What is missing before anyone can be asked about devices. -/
def Unready (configuration : Configuration) (s : Session) : Prop :=
  s.id = "" ∨ s.user = none ∨ configuration.attributes.get? DeviceMethod.applicationIdKey = none

/-- The ends of the preparation of the device step. -/
inductive DevicePrepared (configuration : Configuration) (s : Session) :
    List (Exchange surroundings) → Bool → Session → Prop where
  | unready : Unready configuration s → DevicePrepared configuration s [] false s
  | unknown {user : User} {applicationId : String} {fault : Directory.Fault} :
      s.id ≠ "" → s.user = some user →
      configuration.attributes.get? DeviceMethod.applicationIdKey = some applicationId →
      DevicePrepared configuration s [told (.findDevices user.inum applicationId) (.error fault)]
        false s
  /-- The server issues a challenge, which is stored. -/
  | issued {user : User} {applicationId : String} {devices : List DeviceRegistration}
      {challenge : Json} : s.id ≠ "" → s.user = some user →
      configuration.attributes.get? DeviceMethod.applicationIdKey = some applicationId →
      DevicePrepared configuration s
        [told (.findDevices user.inum applicationId) (.ok devices),
          started configuration (workflowFor devices) user applicationId s.id (.ok challenge)]
        true (s.storeChallenge (workflowFor devices) challenge)
  /-- The server knows no device of a user who has one: any older challenge is dropped. -/
  | noDevice {user : User} {applicationId : String} {devices : List DeviceRegistration}
      {message : String} : s.id ≠ "" → s.user = some user →
      configuration.attributes.get? DeviceMethod.applicationIdKey = some applicationId →
      workflowFor devices = .authenticate →
      DevicePrepared configuration s
        [told (.findDevices user.inum applicationId) (.ok devices),
          started configuration .authenticate user applicationId s.id (.error (.status 404 message))]
        true s.clearPending
  /-- Any other fault of the server leaves an older challenge in place. -/
  | faulty {user : User} {applicationId : String} {devices : List DeviceRegistration}
      {fault : Fido.Fault} : s.id ≠ "" → s.user = some user →
      configuration.attributes.get? DeviceMethod.applicationIdKey = some applicationId →
      (workflowFor devices = .authenticate → fault.isNotFound = false) →
      DevicePrepared configuration s
        [told (.findDevices user.inum applicationId) (.ok devices),
          started configuration (workflowFor devices) user applicationId s.id (.error fault)]
        false s

theorem startEnrollment_yields {configuration : Configuration} {s s' : Session} {user : User}
    {applicationId sessionId : String} {h : List (Exchange surroundings)} {ok : Bool}
    (hy : (DeviceMethod.startEnrollment configuration s user applicationId sessionId).Yields h
      (ok, s')) :
    ∃ answer, h = [started configuration .enroll user applicationId sessionId answer] ∧
      ((∃ challenge, answer = .ok challenge ∧ ok = true ∧ s' = s.storeChallenge .enroll challenge) ∨
        ∃ fault, answer = .error fault ∧ ok = false ∧ s' = s) := by
  obtain ⟨answer, h₁, rfl, hy₁⟩ := hy
  refine ⟨answer, ?_⟩
  rcases answer with fault | challenge
  · obtain ⟨rfl, he⟩ := hy₁
    cases he
    exact ⟨rfl, .inr ⟨fault, rfl, rfl, rfl⟩⟩
  · obtain ⟨rfl, he⟩ := hy₁
    cases he
    exact ⟨rfl, .inl ⟨challenge, rfl, rfl, rfl⟩⟩

theorem ceremony_startAuthentication_yields {configuration : Configuration} {user : User}
    {applicationId sessionId : String} {h : List (Exchange surroundings)}
    {v : Except Fido.Ceremony.Failure Json}
    (hy : (Fido.Ceremony.startAuthentication configuration.metadata user.userId none applicationId
      sessionId).Yields h v) :
    ∃ answer, h = [started configuration .authenticate user applicationId sessionId answer] ∧
      v = answer.mapError Fido.Ceremony.Failure.ofStart := by
  obtain ⟨answer, _, rfl, rfl, rfl⟩ := hy
  exact ⟨answer, rfl, rfl⟩

theorem startAuthentication_yields {configuration : Configuration} {s s' : Session} {user : User}
    {applicationId sessionId : String} {h : List (Exchange surroundings)} {ok : Bool}
    (hy : (DeviceMethod.startAuthentication configuration s user applicationId sessionId).Yields h
      (ok, s')) :
    ∃ answer, h = [started configuration .authenticate user applicationId sessionId answer] ∧
      ((∃ challenge, answer = .ok challenge ∧ ok = true ∧
          s' = s.storeChallenge .authenticate challenge) ∨
        (∃ message, answer = .error (.status 404 message) ∧ ok = true ∧ s' = s.clearPending) ∨
        ∃ fault, answer = .error fault ∧ fault.isNotFound = false ∧ ok = false ∧ s' = s) := by
  unfold DeviceMethod.startAuthentication at hy
  rw [Program.log_bind, Program.yields_note, Program.yields_bind] at hy
  obtain ⟨_, _, h₂, rfl, hc, hy₁⟩ := hy
  obtain ⟨answer, rfl, rfl⟩ := ceremony_startAuthentication_yields hc
  refine ⟨answer, ?_⟩
  rcases answer with fault | challenge
  · cases hf : fault.isNotFound with
    | true =>
      obtain ⟨message, rfl⟩ := (Fido.Fault.isNotFound_iff fault).1 hf
      obtain ⟨rfl, he⟩ := hy₁
      cases he
      exact ⟨rfl, .inr (.inl ⟨message, rfl, rfl, rfl⟩)⟩
    | false =>
      have hr : Except.mapError Fido.Ceremony.Failure.ofStart (.error fault : Except _ Json) =
          .error (.remote fault) := congrArg Except.error (if_neg (by simp [hf]))
      rw [hr] at hy₁
      obtain ⟨rfl, he⟩ := hy₁
      cases he
      exact ⟨rfl, .inr (.inr ⟨fault, rfl, hf, rfl, rfl⟩)⟩
  · obtain ⟨rfl, he⟩ := hy₁
    cases he
    exact ⟨rfl, .inl ⟨challenge, rfl, rfl, rfl⟩⟩

/-- A preparation that gives up before it asks anybody. -/
theorem devicePrepared_of_unready {configuration : Configuration} {s s' : Session}
    {h : List (Exchange surroundings)} {ok : Bool} (hu : Unready configuration s)
    (hy : (Program.done (false, s)).Yields h (ok, s')) : DevicePrepared configuration s h ok s' := by
  obtain ⟨rfl, he⟩ := hy
  cases he
  exact .unready hu

/-- The preparation has no other ends. -/
theorem prepareDevice_yields {configuration : Configuration} {s s' : Session}
    {h : List (Exchange surroundings)} {ok : Bool}
    (hy : (DeviceMethod.prepareDevice configuration s).Yields h (ok, s')) :
    DevicePrepared configuration s h ok s' := by
  unfold DeviceMethod.prepareDevice at hy
  simp only [Program.log_bind, Program.yields_note] at hy
  split at hy
  · rename_i hid
    exact devicePrepared_of_unready (.inl (Session.id?_eq_none_iff.1 hid)) hy
  · rename_i sessionId hid
    obtain ⟨rfl, hne⟩ := Session.id?_eq_some_iff.1 hid
    split at hy
    · rename_i hu
      exact devicePrepared_of_unready (.inr (.inl hu)) hy
    · rename_i user hu
      split at hy
      · rename_i ha
        exact devicePrepared_of_unready (.inr (.inr ha)) hy
      · rename_i applicationId ha
        obtain ⟨found, h₁, rfl, hy₁⟩ := hy
        rcases found with fault | _ | _
        · obtain ⟨rfl, he⟩ := hy₁
          cases he
          exact .unknown hne hu ha
        · obtain ⟨_, rfl, ⟨challenge, rfl, rfl, rfl⟩ | ⟨fault, rfl, rfl, rfl⟩⟩ :=
            startEnrollment_yields hy₁
          · exact .issued hne hu ha
          · exact .faulty hne hu ha fun hw => by cases hw
        · obtain ⟨_, rfl, ⟨challenge, rfl, rfl, rfl⟩ | ⟨message, rfl, rfl, rfl⟩ |
            ⟨fault, rfl, hf, rfl, rfl⟩⟩ := startAuthentication_yields hy₁
          · exact .issued hne hu ha
          · exact .noDevice hne hu ha rfl
          · exact .faulty hne hu ha fun _ => hf

/-! ## The device step -/

/-- The server's answer counts as a success. -/
def isAccepted : Except Fido.Fault Fido.Status → Bool
  | .ok status => status.isSuccess
  | .error _ => false

/-- The submitted fields answer the challenge of the session. -/
structure Submits (p : Parameters) (s : Session) (workflow : Workflow) (user : User)
    (token : String) : Prop where
  token_eq : p.firstValue? DeviceMethod.tokenField = some token
  workflow_eq : p.firstValue? DeviceMethod.workflowField = some workflow.name
  user_eq : s.user = some user
  started_eq : s.startedWorkflow? = some workflow

/-- What the directory is told after a workflow was finished: only a new device. -/
inductive Recorded (configuration : Configuration) (workflow : Workflow) (user : User)
    (accepted : Bool) : List (Exchange surroundings) → Prop where
  | nothing : (accepted = true → workflow = .enroll →
      configuration.attributes.get? DeviceMethod.applicationIdKey = none) →
      Recorded configuration workflow user accepted []
  | device {applicationId : String} {answer : Except Directory.Fault Unit} :
      accepted = true → workflow = .enroll →
      configuration.attributes.get? DeviceMethod.applicationIdKey = some applicationId →
      Recorded configuration workflow user accepted
        [told (.record ⟨user.inum, applicationId, none⟩) answer]

/-- The ends of the device step. -/
inductive DeviceChecked (configuration : Configuration) (p : Parameters) (s : Session) :
    List (Exchange surroundings) → Bool → Session → Prop where
  /-- The submission does not fit the session: nobody is asked. -/
  | unfit : (∀ workflow user token, ¬Submits p s workflow user token) →
      DeviceChecked configuration p s [] false s
  /-- The server judges the submission; its challenge is used up. -/
  | judged {workflow : Workflow} {user : User} {token : String}
      {answer : Except Fido.Fault Fido.Status} {recorded : List (Exchange surroundings)} :
      Submits p s workflow user token →
      Recorded configuration workflow user (isAccepted answer) recorded →
      DeviceChecked configuration p s
        (finished configuration workflow user token answer :: recorded) (isAccepted answer)
        s.clearPending

theorem verdict_yields {kind : String} {answer : Except Fido.Fault Fido.Status}
    {h : List (Exchange surroundings)} {v : Except Fido.Ceremony.Failure Bool}
    (hy : (Fido.Ceremony.verdict kind answer).Yields h v) :
    h = [] ∧ (v = .ok true ↔ isAccepted answer = true) := by
  cases answer with
  | error fault =>
    obtain ⟨rfl, rfl⟩ := hy
    simp [isAccepted]
  | ok status =>
    obtain ⟨rfl, rfl⟩ := hy
    simp [isAccepted]

theorem finish_yields {configuration : Configuration} {workflow : Workflow} {user : User}
    {token : String} {h : List (Exchange surroundings)} {ok : Bool}
    (hy : (DeviceMethod.finish configuration workflow user token).Yields h ok) :
    ∃ answer, h = [finished configuration workflow user token answer] ∧ ok = isAccepted answer := by
  unfold DeviceMethod.finish at hy
  extract_lets conclude at hy
  have hcall : ∃ judged answer h₂, h = finished configuration workflow user token answer :: h₂ ∧
      (judged = .ok true ↔ isAccepted answer = true) ∧ (conclude judged).Yields h₂ ok := by
    cases workflow with
    | enroll =>
      simp only [Program.log_bind, Program.yields_note] at hy
      obtain ⟨judged, _, h₂, rfl, ⟨answer, _, rfl, hc⟩, hy₁⟩ := Program.yields_bind.1 hy
      obtain ⟨rfl, hv⟩ := verdict_yields hc
      exact ⟨judged, answer, h₂, rfl, hv, hy₁⟩
    | authenticate =>
      simp only [Program.log_bind, Program.yields_note] at hy
      obtain ⟨judged, _, h₂, rfl, ⟨answer, _, rfl, hc⟩, hy₁⟩ := Program.yields_bind.1 hy
      obtain ⟨rfl, hv⟩ := verdict_yields hc
      exact ⟨judged, answer, h₂, rfl, hv, hy₁⟩
  obtain ⟨judged, answer, h₂, rfl, hv, hy₁⟩ := hcall
  have hend : h₂ = [] ∧ (ok = true ↔ judged = .ok true) := by
    rcases judged with failure | _ | _
    · exact ⟨hy₁.1, by simp [show ok = false from hy₁.2]⟩
    · exact ⟨hy₁.1, by simp [show ok = false from hy₁.2]⟩
    · exact ⟨hy₁.1, by simp [show ok = true from hy₁.2]⟩
  obtain ⟨rfl, hok⟩ := hend
  exact ⟨answer, rfl, Bool.eq_iff_iff.2 (hok.trans hv)⟩

theorem recordEnrollment_yields {configuration : Configuration} {user : User}
    {h : List (Exchange surroundings)}
    (hy : (DeviceMethod.recordEnrollment configuration user).Yields h ()) :
    Recorded configuration .enroll user true h := by
  unfold DeviceMethod.recordEnrollment at hy
  split at hy
  · rename_i ha
    obtain ⟨rfl, -⟩ := hy
    exact .nothing fun _ _ => ha
  · rename_i applicationId ha
    obtain ⟨recorded, h₁, rfl, hy₁⟩ := hy
    have hn : h₁ = [] := by
      rcases recorded with fault | _
      · exact hy₁.1
      · exact hy₁.1
    subst hn
    exact .device rfl rfl ha

theorem finishStarted_yields {configuration : Configuration} {workflow : Workflow} {user : User}
    {token : String} {s s' : Session} {h : List (Exchange surroundings)} {ok : Bool}
    (hy : (DeviceMethod.finishStarted configuration workflow user token s).Yields h (ok, s')) :
    ∃ answer recorded, h = finished configuration workflow user token answer :: recorded ∧
      Recorded configuration workflow user (isAccepted answer) recorded ∧
      ok = isAccepted answer ∧ s' = s.clearPending := by
  unfold DeviceMethod.finishStarted at hy
  rw [Program.yields_bind] at hy
  obtain ⟨accepted, h₁, h₂, rfl, hf, hy₁⟩ := hy
  obtain ⟨answer, rfl, rfl⟩ := finish_yields hf
  refine ⟨answer, h₂, rfl, ?_⟩
  split at hy₁
  · rename_i hw
    rw [Bool.and_eq_true, beq_iff_eq] at hw
    obtain ⟨ha, rfl⟩ := hw
    obtain ⟨_, h₃, h₄, rfl, hr, rfl, he⟩ := Program.yields_bind.1 hy₁
    cases he
    rw [List.append_nil, ha]
    exact ⟨recordEnrollment_yields hr, rfl, rfl⟩
  · rename_i hw
    obtain ⟨rfl, he⟩ := hy₁
    cases he
    refine ⟨.nothing fun ha he => ?_, rfl, rfl⟩
    rw [ha, he] at hw
    exact absurd rfl hw

theorem read_eq_ok_iff {tag : String} {w : Workflow} : Workflow.read tag = .ok w ↔ tag = w.name := by
  rw [← Workflow.ofName?_eq_some_iff]
  unfold Workflow.read
  cases Workflow.ofName? tag <;> simp

/-- A device step that gives up before it asks anybody. -/
theorem deviceChecked_of_unfit {configuration : Configuration} {p : Parameters} {s s' : Session}
    {h : List (Exchange surroundings)} {ok : Bool}
    (hu : ∀ workflow user token, ¬Submits p s workflow user token)
    (hy : (Program.done (false, s)).Yields h (ok, s')) : DeviceChecked configuration p s h ok s' := by
  obtain ⟨rfl, he⟩ := hy
  cases he
  exact .unfit hu

/-- The device step has no other ends. -/
theorem checkDevice_yields {configuration : Configuration} {p : Parameters} {s s' : Session}
    {h : List (Exchange surroundings)} {ok : Bool}
    (hy : (DeviceMethod.checkDevice configuration p s).Yields h (ok, s')) :
    DeviceChecked configuration p s h ok s' := by
  unfold DeviceMethod.checkDevice at hy
  simp only [Program.log_bind, Program.yields_note] at hy
  split at hy
  · rename_i ht
    exact deviceChecked_of_unfit (fun _ _ _ hs => by simp [hs.token_eq] at ht) hy
  · rename_i token ht
    split at hy
    · rename_i hw
      exact deviceChecked_of_unfit (fun _ _ _ hs => by simp [hs.workflow_eq] at hw) hy
    · rename_i tag hw
      split at hy
      · rename_i hu
        exact deviceChecked_of_unfit (fun _ _ _ hs => by simp [hs.user_eq] at hu) hy
      · rename_i user hu
        split at hy
        · rename_i unknown hr
          refine deviceChecked_of_unfit (fun w _ _ hs => ?_) hy
          obtain rfl : w.name = tag := Option.some.inj (hs.workflow_eq.symm.trans hw)
          rw [read_eq_ok_iff.2 rfl] at hr
          cases hr
        · rename_i workflow hr
          obtain rfl := read_eq_ok_iff.1 hr
          split at hy
          · rename_i hn
            exact deviceChecked_of_unfit (fun _ _ _ hs => by simp [hs.started_eq] at hn) hy
          · rename_i pending hp
            split at hy
            · rename_i hpw
              subst hpw
              obtain ⟨answer, recorded, rfl, hrec, rfl, rfl⟩ := finishStarted_yields hy
              exact .judged ⟨ht, hw, hu, hp⟩ hrec
            · rename_i hpw
              refine deviceChecked_of_unfit (fun w _ _ hs => hpw ?_) hy
              have hn : w.name = workflow.name := Option.some.inj (hs.workflow_eq.symm.trans hw)
              rw [← Option.some.inj (hs.started_eq.symm.trans hp)]
              exact Workflow.name_injective hn

/-! ## The method as a whole -/

/-- Only the device step needs a preparation. -/
theorem prepare_yields {configuration : Configuration} {s s' : Session} {step : UInt32}
    {h : List (Exchange surroundings)} {ok : Bool}
    (hy : (DeviceMethod.prepare configuration s step).Yields h (ok, s')) :
    step = deviceStep ∧ DevicePrepared configuration s h ok s' ∨
      step ≠ deviceStep ∧ h = [] ∧ s' = s ∧
        (ok = true ↔ step = passwordStep ∨ step = acknowledgementStep) := by
  unfold DeviceMethod.prepare at hy
  split at hy
  · rename_i h1
    obtain ⟨rfl, he⟩ := hy
    cases he
    exact .inr ⟨by rw [h1]; decide, rfl, rfl, by simp [h1]⟩
  · rename_i h1
    split at hy
    · rename_i h2
      exact .inl ⟨h2, prepareDevice_yields hy⟩
    · rename_i h2
      split at hy
      · rename_i h3
        obtain ⟨rfl, he⟩ := hy
        cases he
        exact .inr ⟨h2, rfl, rfl, by simp [h3]⟩
      · rename_i h3
        obtain ⟨rfl, he⟩ := hy
        cases he
        exact .inr ⟨h2, rfl, rfl, by simp [h1, h3]⟩

/-- Only the first two steps have a form to judge. -/
theorem authenticate_yields {configuration : Configuration} {c : Credentials} {p : Parameters}
    {s s' : Session} {step : UInt32} {h : List (Exchange surroundings)} {ok : Bool}
    (hy : (DeviceMethod.authenticate configuration c p s step).Yields h (ok, s')) :
    step = passwordStep ∧ PasswordChecked c s h ok s' ∨
      step = deviceStep ∧ DeviceChecked configuration p s h ok s' ∨
      step ≠ passwordStep ∧ step ≠ deviceStep ∧ h = [] ∧ ok = false ∧ s' = s := by
  unfold DeviceMethod.authenticate at hy
  split at hy
  · rename_i h1
    exact .inl ⟨h1, checkPassword_yields hy⟩
  · rename_i h1
    split at hy
    · rename_i h2
      exact .inr (.inl ⟨h2, checkDevice_yields hy⟩)
    · rename_i h2
      obtain ⟨rfl, he⟩ := hy
      cases he
      exact .inr (.inr ⟨h1, h2, rfl, rfl, rfl⟩)

/-- A configuration holds the application that the host named, without the blanks at its ends. -/
theorem applicationId_of_configure {policy : Fido.RetryPolicy} {attributes : Attributes}
    {configuration : Configuration} {h : List (Exchange surroundings)}
    (hy : (DeviceMethod.configure policy attributes).Yields h (.ok configuration)) :
    ∃ applicationId, attributes.present? DeviceMethod.applicationIdKey = some applicationId ∧
      configuration.attributes.get? DeviceMethod.applicationIdKey = some applicationId := by
  unfold DeviceMethod.configure at hy
  rw [Program.log_bind, Program.yields_note] at hy
  split at hy
  · cases hy.2
  · split at hy
    · cases hy.2
    · rename_i applicationId ha
      obtain ⟨found, _, h₂, rfl, -, hy₁⟩ := Program.yields_bind.1 hy
      rcases found with failure | metadata
      · cases hy₁.2
      · cases hy₁.2
        exact ⟨applicationId, ha, Attributes.get?_set_self _ _ _⟩

/-! ## An example of surroundings -/

/-- Everybody is known, nobody has a device, and the server accepts everything. -/
def obliging : Responder surroundings Unit where
  respond
    | .directory (.authenticate _ _), w => (true, w)
    | .directory (.findUser name), w => (Except.ok (some ⟨name, "user", "inum"⟩), w)
    | .directory (.findDevices _ _), w => (Except.ok [], w)
    | .directory (.record _), w => (Except.ok (), w)
    | .fido (.fetchMetadata url), w => (Except.ok ⟨"1.0", url, "enroll", "authenticate"⟩, w)
    | .fido (.startRegistration ..), w => (Except.ok (Json.object []), w)
    | .fido (.startAuthentication ..), w => (Except.ok (Json.object []), w)
    | .fido (.finishRegistration ..), w => (Except.ok ⟨"success", none⟩, w)
    | .fido (.finishAuthentication ..), w => (Except.ok ⟨"success", none⟩, w)
    | .pause _, w => ((), w)

/-- A server and an application. -/
def obligingAttributes : Attributes :=
  .ofPairs [(DeviceMethod.serverUriKey, "https://fido.example"),
    (DeviceMethod.applicationIdKey, " https://app.example ")]

/-- What the method makes of them. -/
def obligingConfiguration : Configuration :=
  ⟨.ofPairs [(DeviceMethod.serverUriKey, "https://fido.example"),
    (DeviceMethod.applicationIdKey, "https://app.example")],
    ⟨"1.0", Fido.metadataUrl "https://fido.example", "enroll", "authenticate"⟩⟩

theorem configure_obliging : ((DeviceMethod.configure ⟨1, 0⟩ obligingAttributes).run obliging ()).value =
    .ok obligingConfiguration := rfl

/-- The fields with which a device is enrolled. -/
def enrollment : Parameters :=
  .ofPairs [(DeviceMethod.tokenField, "signed"), (DeviceMethod.workflowField, "enroll")]

end Login

end TwoStepLogin
