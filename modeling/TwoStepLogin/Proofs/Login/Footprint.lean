import TwoStepLogin.Proofs.Effect.Replies
import TwoStepLogin.Proofs.Login.Enrollment
import TwoStepLogin.Proofs.Login.Secrecy

/-!
# What a step leaves behind

A step of a login can be seen in three places: in the session, at the server and in the directory.
Here is said what may be seen there, whatever the session held before.

* `Session.PendingKey` — the three keys under which a started workflow is remembered;
* `Session.SameBesides` — sessions that differ at most under these keys;
* `Session.Cleared`, `Session.Stores` — nothing under them, or one workflow with its challenge;
* `Login.callsOf`, `Login.recordingsOf` — what the server and the directory are asked to do;
* `Login.startAnswer`, `Login.finishAnswer` — what a server answers to either end of a workflow;
* `Login.inMemory` — the parties of a login around a directory in memory.
-/

set_option autoImplicit false

namespace TwoStepLogin

/-! ## In the session -/

namespace Session

/-- A key of a started workflow: of its name, or of a challenge. -/
def PendingKey (key : String) : Prop := key = workflowKey ∨ ∃ workflow, key = challengeKey workflow

/-- Nothing but the texts under the keys of a started workflow may differ. -/
structure SameBesides (s s' : Session) : Prop where
  id_eq : s'.id = s.id
  user_eq : s'.user = s.user
  step_eq : s'.step = s.step
  completed_eq : s'.completed = s.completed
  createdAt_eq : s'.createdAt = s.createdAt
  get?_eq : ∀ key, ¬PendingKey key → s'.get? key = s.get? key

/-- The same session without a started workflow. -/
structure Cleared (s s' : Session) : Prop where
  same : s.SameBesides s'
  get?_eq : ∀ key, PendingKey key → s'.get? key = none

/-- One started workflow with its challenge, and no challenge of the other one. -/
structure Stores (s : Session) (workflow : Workflow) (challenge : Json) : Prop where
  workflow_eq : s.get? workflowKey = some workflow.name
  challenge_eq : s.get? (challengeKey workflow) = some challenge.compact
  other_eq : s.get? (challengeKey workflow.other) = none

theorem SameBesides.refl (s : Session) : s.SameBesides s := ⟨rfl, rfl, rfl, rfl, rfl, fun _ _ => rfl⟩

variable {key : String}

theorem ne_challengeKey_of_not_pendingKey (hk : ¬PendingKey key) (workflow : Workflow) :
    key ≠ challengeKey workflow := fun he => hk (.inr ⟨workflow, he⟩)

theorem ne_workflowKey_of_not_pendingKey (hk : ¬PendingKey key) : key ≠ workflowKey :=
  fun he => hk (.inl he)

theorem stores_storeChallenge (s : Session) (workflow : Workflow) (challenge : Json) :
    (s.storeChallenge workflow challenge).Stores workflow challenge where
  workflow_eq := by simp [storeChallenge, get?_set]
  challenge_eq := s.get?_storeChallenge workflow challenge
  other_eq := s.get?_storeChallenge_other workflow challenge

theorem sameBesides_storeChallenge (s : Session) (workflow : Workflow) (challenge : Json) :
    s.SameBesides (s.storeChallenge workflow challenge) := by
  refine ⟨rfl, rfl, rfl, rfl, rfl, fun key hk => ?_⟩
  rw [storeChallenge, get?_set, if_neg (ne_workflowKey_of_not_pendingKey hk), get?_set,
    if_neg (ne_challengeKey_of_not_pendingKey hk _), get?_remove,
    if_neg (ne_challengeKey_of_not_pendingKey hk _)]

theorem cleared_clearPending (s : Session) : s.Cleared s.clearPending := by
  refine ⟨⟨rfl, rfl, rfl, rfl, rfl, fun key hk => ?_⟩, fun key hk => ?_⟩
  · rw [clearPending, get?_remove, if_neg (ne_workflowKey_of_not_pendingKey hk), get?_remove,
      if_neg (ne_challengeKey_of_not_pendingKey hk _), get?_remove,
      if_neg (ne_challengeKey_of_not_pendingKey hk _)]
  · rcases hk with rfl | ⟨workflow, rfl⟩
    · rw [clearPending, get?_remove, if_pos rfl]
    · exact s.get?_clearPending workflow

end Session

namespace Login

/-! ## At the server -/

/-- What the server is called for. -/
def call? : Exchange surroundings → Option Fido.Call
  | ⟨.fido call, _⟩ => some call
  | _ => none

/-- The calls of a conversation, in order. -/
def callsOf (h : List (Exchange surroundings)) : List Fido.Call := h.filterMap call?

/-- The call that starts a workflow; no device is named. -/
def startCall (configuration : Configuration) (workflow : Workflow) (user : User)
    (applicationId sessionId : String) : Fido.Call :=
  match workflow with
  | .enroll => .startRegistration configuration.metadata user.userId applicationId sessionId
  | .authenticate =>
    .startAuthentication configuration.metadata user.userId none applicationId sessionId

variable {σ : Type} (world : Responder surroundings σ) (w : σ)

/-- What is answered to the start of a workflow. -/
def startAnswer (configuration : Configuration) (workflow : Workflow) (user : User)
    (applicationId sessionId : String) : Except Fido.Fault Json :=
  match workflow with
  | .enroll => (world.respond
      (.fido (.startRegistration configuration.metadata user.userId applicationId sessionId)) w).1
  | .authenticate => (world.respond (.fido (.startAuthentication configuration.metadata user.userId
      none applicationId sessionId)) w).1

/-- What is answered to a response that finishes a workflow. -/
def finishAnswer (configuration : Configuration) (workflow : Workflow) (user : User)
    (token : String) : Except Fido.Fault Fido.Status :=
  match workflow with
  | .enroll =>
    (world.respond (.fido (.finishRegistration configuration.metadata user.userId token)) w).1
  | .authenticate =>
    (world.respond (.fido (.finishAuthentication configuration.metadata user.userId token)) w).1

variable {world w} {w' : σ} {configuration : Configuration} {workflow : Workflow} {user : User}
  {applicationId sessionId token : String} {h h' : List (Exchange surroundings)}

theorem callsOf_started {found : Except Directory.Fault (List DeviceRegistration)}
    {answer : Except Fido.Fault Json} :
    callsOf [told (.findDevices user.inum applicationId) found,
        started configuration workflow user applicationId sessionId answer] =
      [startCall configuration workflow user applicationId sessionId] := by
  cases workflow <;> rfl

theorem callsOf_finished {answer : Except Fido.Fault Fido.Status} :
    callsOf (finished configuration workflow user token answer :: h) =
      finishCall configuration workflow user token :: callsOf h := by
  cases workflow <;> rfl

theorem isFinish_finishCall : (finishCall configuration workflow user token).isFinish = true := by
  cases workflow <;> rfl

theorem answer_of_started {answer : Except Fido.Fault Json}
    (hr : world.Replies w
      (started configuration workflow user applicationId sessionId answer :: h) w') :
    answer = startAnswer world w configuration workflow user applicationId sessionId := by
  cases workflow with
  | enroll => exact hr.1
  | authenticate => exact hr.1

theorem answer_of_finished {answer : Except Fido.Fault Fido.Status}
    (hr : world.Replies w (finished configuration workflow user token answer :: h) w') :
    answer = finishAnswer world w configuration workflow user token := by
  cases workflow with
  | enroll => exact hr.1
  | authenticate => exact hr.1

/-! ## In the directory -/

/-- The registrations that the directory is asked to record, in order. -/
def recordingsOf (h : List (Exchange surroundings)) : List DeviceRegistration :=
  (inquiriesOf h).filterMap Directory.requested?

theorem recordingsOf_append : recordingsOf (h ++ h') = recordingsOf h ++ recordingsOf h' := by
  rw [recordingsOf, inquiriesOf_append, List.filterMap_append, recordingsOf, recordingsOf]

theorem recordingsOf_told {query : Directory.Query} {answer : query.Answer} :
    recordingsOf (told query answer :: h) =
      (Directory.requested? ⟨query, answer⟩).toList ++ recordingsOf h := by
  change (⟨query, answer⟩ :: inquiriesOf h).filterMap Directory.requested? = _
  rw [List.filterMap_cons]
  cases Directory.requested? ⟨query, answer⟩ with
  | none => rfl
  | some registration => rfl

theorem recordingsOf_started {found : Except Directory.Fault (List DeviceRegistration)}
    {answer : Except Fido.Fault Json} :
    recordingsOf [told (.findDevices user.inum applicationId) found,
      started configuration workflow user applicationId sessionId answer] = [] := by
  rw [recordingsOf, inquiriesOf_lookup]
  rfl

theorem recordingsOf_finished {answer : Except Fido.Fault Fido.Status} :
    recordingsOf (finished configuration workflow user token answer :: h) = recordingsOf h := by
  cases workflow <;> rfl

theorem PasswordChecked.recordingsOf_eq {c : Credentials} {s s' : Session} {ok : Bool}
    (hc : PasswordChecked c s h ok s') : recordingsOf h = [] := by
  cases hc <;> rfl

theorem DevicePrepared.recordingsOf_eq {s s' : Session} {ok : Bool}
    (hp : DevicePrepared configuration s h ok s') : recordingsOf h = [] := by
  cases hp with
  | unready _ => rfl
  | unknown _ _ _ => rfl
  | issued _ _ _ => exact recordingsOf_started
  | noDevice _ _ _ _ => exact recordingsOf_started
  | faulty _ _ _ _ => exact recordingsOf_started

/-- The parties of a login: a directory in memory, and a server. -/
def inMemory {φ : Type} (server : Responder Fido.calls φ) : Responder surroundings (Directory × φ) :=
  parties ⟨Directory.respond⟩ server

/-- A directory that is not asked to record anything stays as it is. -/
theorem directory_eq_of_recordingsOf {φ : Type} {server : Responder Fido.calls φ}
    {before after : Directory × φ} (hr : (inMemory server).Replies before h after)
    (hn : recordingsOf h = []) : after.1 = before.1 := by
  induction h generalizing before with
  | nil => rw [hr]
  | cons e h ih =>
    obtain ⟨question, answer⟩ := e
    obtain ⟨-, hlater⟩ := hr
    cases question with
    | directory query =>
      have hboth := List.append_eq_nil_iff.1 (recordingsOf_told.symm.trans hn)
      have hsame : (before.1.respond query).2 = before.1 :=
        Directory.respond_eq_self (Option.toList_eq_nil_iff.1 hboth.1)
      exact (ih hlater hboth.2).trans hsame
    | fido call => exact (ih hlater hn).trans rfl
    | pause milliseconds => exact (ih hlater hn).trans rfl

end Login

end TwoStepLogin
