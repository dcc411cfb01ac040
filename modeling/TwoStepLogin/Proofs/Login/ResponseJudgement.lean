import TwoStepLogin.Proofs.Login.Footprint

/-!
# Judging the response of a device

The device step hands a response to the server only if the submitted fields fit the session. Then the
challenge is used up, whatever the server says, and the verdict is the server's alone. A new device is
recorded after the verdict is given, so a directory that refuses has no influence on it.

* `Login.Responds` — the submitted fields answer the workflow that the session remembers;
* `Login.newDevices` — what is to be recorded after a verdict;
* `Login.JudgedBy` — the ends of the device step, in terms of what the server says;
* `Login.device_response_is_judged_exactly` — verdict, calls, session and recordings.
-/

set_option autoImplicit false

namespace TwoStepLogin

/-- A field has the value that was submitted first, unless it is empty. -/
theorem Parameters.firstValue?_eq_some_iff {p : Parameters} {name value : String} :
    p.firstValue? name = some value ↔ (p.values name).head? = some value ∧ value ≠ "" := by
  unfold Parameters.firstValue?
  cases hv : p.values name with
  | nil => simp
  | cons first rest =>
    simp only [List.head?_cons, String.isEmpty_iff]
    split
    · rename_i hempty
      refine iff_of_false (by simp) ?_
      rintro ⟨hfirst, hne⟩
      exact hne ((Option.some.inj hfirst).symm.trans hempty)
    · rename_i hne
      constructor
      · rintro hfirst
        obtain rfl := Option.some.inj hfirst
        exact ⟨rfl, hne⟩
      · exact And.left

theorem Workflow.name_ne_empty (workflow : Workflow) : workflow.name ≠ "" := by
  cases workflow <;> decide

/-- The started workflow is the one whose name is recorded, letter for letter. -/
theorem Session.startedWorkflow?_eq_some_iff {s : Session} {workflow : Workflow} :
    s.startedWorkflow? = some workflow ↔ s.get? workflowKey = some workflow.name := by
  rw [startedWorkflow?, Option.bind_eq_some_iff]
  constructor
  · rintro ⟨tag, htag, hname⟩
    rwa [← Workflow.ofName?_eq_some_iff.1 hname]
  · intro htag
    exact ⟨workflow.name, htag, Workflow.ofName?_name workflow⟩

namespace Login

/-- The submitted fields answer the workflow that the session remembers: there is a response, the
session has a user, and the submitted name is that of a workflow and the recorded one. -/
structure Responds (p : Parameters) (s : Session) (workflow : Workflow) (user : User)
    (token : String) : Prop where
  token_eq : (p.values DeviceMethod.tokenField).head? = some token
  token_ne : token ≠ ""
  user_eq : s.user = some user
  workflow_eq : (p.values DeviceMethod.workflowField).head? = some workflow.name
  started_eq : s.get? Session.workflowKey = some workflow.name

/-- What is to be recorded after a verdict: an accepted new device, for the configured application. -/
def newDevices (configuration : Configuration) (workflow : Workflow) (user : User)
    (accepted : Bool) : List DeviceRegistration :=
  if workflow = .enroll ∧ accepted = true then
    ((configuration.attributes.get? DeviceMethod.applicationIdKey).map fun applicationId =>
      ⟨user.inum, applicationId, none⟩).toList
  else []

variable {σ : Type} {configuration : Configuration} {c : Credentials} {p : Parameters}
  {s s' : Session} {world : Responder surroundings σ} {w w' : σ} {workflow workflow₁ : Workflow}
  {user user₁ : User} {token token₁ : String} {h : List (Exchange surroundings)} {ok : Bool}

theorem submits_iff : Submits p s workflow user token ↔ Responds p s workflow user token := by
  constructor
  · rintro ⟨htoken, hworkflow, huser, hstarted⟩
    rw [Parameters.firstValue?_eq_some_iff] at htoken hworkflow
    rw [Session.startedWorkflow?_eq_some_iff] at hstarted
    exact ⟨htoken.1, htoken.2, huser, hworkflow.1, hstarted⟩
  · rintro ⟨htoken, hne, huser, hworkflow, hstarted⟩
    refine ⟨?_, ?_, huser, Session.startedWorkflow?_eq_some_iff.2 hstarted⟩
    · exact Parameters.firstValue?_eq_some_iff.2 ⟨htoken, hne⟩
    · exact Parameters.firstValue?_eq_some_iff.2 ⟨hworkflow, workflow.name_ne_empty⟩

/-- Fields answer one workflow at most. -/
theorem Responds.unique (hs : Responds p s workflow user token)
    (hs₁ : Responds p s workflow₁ user₁ token₁) :
    workflow = workflow₁ ∧ user = user₁ ∧ token = token₁ := by
  have hname := Option.some.inj (hs.started_eq.symm.trans hs₁.started_eq)
  exact ⟨Workflow.name_injective hname, Option.some.inj (hs.user_eq.symm.trans hs₁.user_eq),
    Option.some.inj (hs.token_eq.symm.trans hs₁.token_eq)⟩

theorem Recorded.callsOf_eq {accepted : Bool} (hr : Recorded configuration workflow user accepted h) :
    callsOf h = [] := by
  cases hr <;> rfl

theorem Recorded.recordingsOf_eq {accepted : Bool}
    (hr : Recorded configuration workflow user accepted h) :
    recordingsOf h = newDevices configuration workflow user accepted := by
  cases hr with
  | nothing hn =>
    unfold newDevices
    split
    · rename_i hboth
      rw [hn hboth.2 hboth.1]
      rfl
    · rfl
  | device haccepted hworkflow happlication =>
    rw [newDevices, if_pos ⟨hworkflow, haccepted⟩, happlication]
    rfl

/-- The ends of the device step, in terms of what the server says. -/
inductive JudgedBy (configuration : Configuration) (p : Parameters) (s : Session)
    (world : Responder surroundings σ) (w : σ) :
    List Fido.Call → List DeviceRegistration → Bool → Session → Prop where
  | unfit : (∀ workflow user token, ¬Responds p s workflow user token) →
      JudgedBy configuration p s world w [] [] false s
  | judged {workflow : Workflow} {user : User} {token : String} {accepted : Bool} :
      Responds p s workflow user token →
      accepted = isAccepted (finishAnswer world w configuration workflow user token) →
      JudgedBy configuration p s world w [finishCall configuration workflow user token]
        (newDevices configuration workflow user accepted) accepted s.clearPending

/-- What was said in a conversation with the surroundings is what they say. -/
theorem DeviceChecked.judgedBy (hd : DeviceChecked configuration p s h ok s')
    (hr : world.Replies w h w') :
    JudgedBy configuration p s world w (callsOf h) (recordingsOf h) ok s' := by
  cases hd with
  | unfit hn =>
    exact .unfit fun workflow user token hs => hn workflow user token (submits_iff.2 hs)
  | judged hs hrecorded =>
    rw [callsOf_finished, hrecorded.callsOf_eq, recordingsOf_finished, hrecorded.recordingsOf_eq]
    exact .judged (submits_iff.1 hs) (congrArg isAccepted (answer_of_finished hr))

namespace JudgedBy

variable {calls : List Fido.Call} {recorded : List DeviceRegistration}

theorem of_unfit (hj : JudgedBy configuration p s world w calls recorded ok s')
    (hn : ∀ workflow user token, ¬Responds p s workflow user token) :
    calls = [] ∧ recorded = [] ∧ ok = false ∧ s' = s := by
  cases hj with
  | unfit _ => exact ⟨rfl, rfl, rfl, rfl⟩
  | judged hs _ => exact absurd hs (hn _ _ _)

theorem of_responds (hj : JudgedBy configuration p s world w calls recorded ok s')
    (hs : Responds p s workflow user token) :
    calls = [finishCall configuration workflow user token] ∧
      recorded = newDevices configuration workflow user ok ∧
      ok = isAccepted (finishAnswer world w configuration workflow user token) ∧
      s' = s.clearPending := by
  cases hj with
  | unfit hn => exact absurd hs (hn _ _ _)
  | judged hs₁ hok =>
    obtain ⟨rfl, rfl, rfl⟩ := hs.unique hs₁
    exact ⟨rfl, rfl, hok, rfl⟩

/-- The verdict is the server's. -/
theorem ok_iff (hj : JudgedBy configuration p s world w calls recorded ok s') :
    ok = true ↔ ∃ workflow user token status, Responds p s workflow user token ∧
      finishAnswer world w configuration workflow user token = .ok status ∧
      status.status = "success" := by
  constructor
  · rintro rfl
    cases hj with
    | judged hs hok =>
      obtain ⟨status, hstatus, hsuccess⟩ := isAccepted_eq_true_iff.1 hok.symm
      exact ⟨_, _, _, status, hs, hstatus, hsuccess⟩
  · rintro ⟨workflow, user, token, status, hs, hstatus, hsuccess⟩
    rw [(hj.of_responds hs).2.2.1]
    exact isAccepted_eq_true_iff.2 ⟨status, hstatus, hsuccess⟩

end JudgedBy

/-- Whatever the session holds, whatever is configured and submitted, and whatever directory and server
say: a response is accepted exactly if the fields answer the recorded workflow and the server says
`success`. The response is handed in, by the only call, exactly if the fields fit; then the started
workflow is forgotten, whatever the server says, and otherwise nothing changes. The directory is asked
once to record an accepted new device if an application is configured, and never else; and nothing
but the server's answer to the response decides on verdict and session, so it makes no difference
whether the device is recorded. -/
theorem device_response_is_judged_exactly (configuration : Configuration) (c : Credentials)
    (p : Parameters) (s : Session) (world : Responder surroundings σ) (w : σ) :
    let step := deviceMethod.authenticate configuration c p s deviceStep
    let o := step.run world w
    (o.value.1 = true ↔ ∃ workflow user token status, Responds p s workflow user token ∧
      finishAnswer world w configuration workflow user token = .ok status ∧
      status.status = "success") ∧
    ((∀ workflow user token, ¬Responds p s workflow user token) →
      callsOf o.exchanges = [] ∧ recordingsOf o.exchanges = [] ∧ o.value.2 = s) ∧
    ∀ workflow user token, Responds p s workflow user token →
      callsOf o.exchanges = [finishCall configuration workflow user token] ∧
        s.Cleared o.value.2 ∧
        recordingsOf o.exchanges = newDevices configuration workflow user o.value.1 ∧
        ∀ {σ' : Type} (world' : Responder surroundings σ') (w' : σ'),
          finishAnswer world' w' configuration workflow user token =
            finishAnswer world w configuration workflow user token →
          (step.run world' w').value = o.value := by
  intro step o
  have hjudged {σ' : Type} (world' : Responder surroundings σ') (w' : σ') :
      JudgedBy configuration p s world' w' (callsOf (step.run world' w').exchanges)
        (recordingsOf (step.run world' w').exchanges) (step.run world' w').value.1
        (step.run world' w').value.2 := by
    have hchecked : DeviceChecked configuration p s (step.run world' w').exchanges
        (step.run world' w').value.1 (step.run world' w').value.2 :=
      authenticate_device_yields (Program.yields_run world' step w')
    exact hchecked.judgedBy (Program.replies_run world' step w')
  refine ⟨(hjudged world w).ok_iff, fun hn => ?_, fun workflow user token hs => ?_⟩
  · obtain ⟨hcalls, hrecorded, -, hsame⟩ := (hjudged world w).of_unfit hn
    exact ⟨hcalls, hrecorded, hsame⟩
  · obtain ⟨hcalls, hrecorded, hok, hsession⟩ := (hjudged world w).of_responds hs
    refine ⟨hcalls, ?_, hrecorded, fun world' w' hanswer => ?_⟩
    · rw [hsession]
      exact s.cleared_clearPending
    · obtain ⟨-, -, hok', hsession'⟩ := (hjudged world' w').of_responds hs
      rw [hanswer] at hok'
      exact Prod.ext (hok'.trans hok.symm) (hsession'.trans hsession.symm)

/-- A directory that records nothing, beside a server that accepts everything. -/
def reluctant : Responder surroundings Unit where
  respond
    | .directory (.record registration), w => (Except.error (.unknownInum registration.userInum), w)
    | question, w => obliging.respond question w

theorem responds_enrollment :
    Responds enrollment challengedSession .enroll ⟨"alice", "user", "inum"⟩ "signed" :=
  ⟨rfl, by decide, rfl, rfl, rfl⟩

/-- Alice's device is accepted though the directory does not record it, just as if it did; and without
a response nothing happens. -/
theorem enrollment_is_accepted_without_record :
    let judged (p : Parameters) (world : Responder surroundings Unit) :=
      (deviceMethod.authenticate obligingConfiguration .blank p challengedSession deviceStep).run
        world ()
    let o := judged enrollment reluctant
    (o.value.1 = true ∧ challengedSession.Cleared o.value.2 ∧
      callsOf o.exchanges =
        [.finishRegistration obligingConfiguration.metadata "user" "signed"] ∧
      recordingsOf o.exchanges = [⟨"inum", "https://app.example", none⟩] ∧
      (judged enrollment obliging).value = o.value) ∧
      callsOf (judged .empty reluctant).exchanges = [] ∧
      (judged .empty reluctant).value = (false, challengedSession) := by
  intro judged o
  obtain ⟨haccepted, -, hresponse⟩ := device_response_is_judged_exactly obligingConfiguration .blank
    enrollment challengedSession reluctant ()
  obtain ⟨hcalls, hcleared, hrecorded, halike⟩ := hresponse _ _ _ responds_enrollment
  obtain ⟨-, hnone, -⟩ := device_response_is_judged_exactly obligingConfiguration .blank .empty
    challengedSession reluctant ()
  have hok : o.value.1 = true := haccepted.2 ⟨_, _, _, _, responds_enrollment, rfl, rfl⟩
  have hnothing (workflow : Workflow) (user : User) (token : String) :
      ¬Responds .empty challengedSession workflow user token := fun hs => nomatch hs.token_eq
  obtain ⟨hnocalls, -, hsession⟩ := hnone hnothing
  rw [hok] at hrecorded
  exact ⟨⟨hok, hcleared, hcalls, hrecorded, halike obliging () rfl⟩, hnocalls, Prod.ext rfl hsession⟩

end Login

end TwoStepLogin
