import TwoStepLogin.Proofs.Login.SessionShape
import TwoStepLogin.Proofs.Login.SiteTurns
import TwoStepLogin.Proofs.Login.TwoFactor

/-!
# The rightful user gets in

Nothing that was submitted before can keep a user with the right password and an accepted device from
completing a login, as long as the session still waits for a password and belongs to nobody else.

* `Login.cooperates` — the server issues challenges and accepts responses;
* `Login.Misses` — fields that are no response to a started workflow;
* `Login.OpenTo`, `Login.Challenged` — a session before and after its password;
* `Login.OpenTo.passwordTurn`, `Login.Challenged.deviceTurn` — one submission by the rightful user;
* `Login.Challenged.misses` — a submission that is no response does no harm;
* `Login.rightful_login_completes` — the login as a whole.
-/

set_option autoImplicit false

namespace TwoStepLogin.Login

open Directory (Answers)

/-- Every challenge that the server is asked for is issued, and every response is accepted. -/
def cooperates : Exchange surroundings → Bool
  | ⟨.fido (.startRegistration ..), answer⟩ => Except.isOk (answer : Except Fido.Fault Json)
  | ⟨.fido (.startAuthentication ..), answer⟩ => Except.isOk (answer : Except Fido.Fault Json)
  | ⟨.fido (.finishRegistration ..), answer⟩ => isAccepted answer
  | ⟨.fido (.finishAuthentication ..), answer⟩ => isAccepted answer
  | _ => true

/-- Fields without a token, or not meant for the started workflow. -/
def Misses (workflow : Workflow) (p : Parameters) : Prop :=
  p.firstValue? DeviceMethod.tokenField = none ∨
    p.firstValue? DeviceMethod.workflowField ≠ some workflow.name

/-- A session that waits for a password and does not belong to anybody else. -/
structure OpenTo (user : User) (s : Session) : Prop where
  id_ne : s.id ≠ ""
  expects : Flow.expects s passwordStep = true
  user_eq : s.user = none ∨ s.user = some user

/-- A session that waits for the response to a started workflow. -/
structure Challenged (user : User) (workflow : Workflow) (s : Session) : Prop where
  expects : Flow.expects s deviceStep = true
  user_eq : s.user = some user
  started_eq : s.startedWorkflow? = some workflow

variable {configuration : Configuration} {applicationId : String} {user : User} {password : String}
  {workflow : Workflow} {p : Parameters} {d d' : Directory} {s s' : Session}
  {h : List (Exchange surroundings)} {ok : Bool} {outcome : StepOutcome}

theorem cooperates_started {answer : Except Fido.Fault Json} {sessionId : String} :
    cooperates (started configuration workflow user applicationId sessionId answer) = answer.isOk := by
  cases workflow <;> rfl

theorem cooperates_finished {token : String} {answer : Except Fido.Fault Fido.Status} :
    cooperates (finished configuration workflow user token answer) = isAccepted answer := by
  cases workflow <;> rfl

/-- What the server answers stands in the whole conversation. -/
theorem cooperates_of_outside {e : Exchange surroundings}
    (hcoop : ∀ e ∈ outsideOf h, cooperates e = true) (he : e ∈ h) : cooperates e = true := by
  cases hi : inquiry? e with
  | none => exact hcoop e (List.mem_filter.2 ⟨he, by rw [hi]; rfl⟩)
  | some asked =>
    -- The directory has no part in it.
    obtain ⟨question, answer⟩ := e
    cases question with
    | directory query => rfl
    | fido call => cases hi
    | pause milliseconds => cases hi

/-! ## The password -/

/-- The right password is accepted. -/
theorem PasswordChecked.of_known (hc : PasswordChecked ⟨user.userName, password⟩ s h ok s')
    (hd : Answers d (inquiriesOf h) d')
    (hk : d.entryFor? user.userName = some ⟨user, passwordDigest password⟩)
    (hname : user.userName ≠ "") (hpassword : password ≠ "")
    (hu : s.user = none ∨ s.user = some user) : ok = true ∧ s'.user = some user := by
  have haccepts : d.accepts user.userName password = true := by
    unfold Directory.accepts
    rw [hk]
    exact beq_self_eq_true _
  have hfound : d.user? user.userName = some user := by
    unfold Directory.user?
    rw [hk]
    rfl
  cases hc with
  | blank hb => exact absurd hb (not_or.2 ⟨hname, hpassword⟩)
  | rejected => cases hd.1.trans haccepts
  | lost hl =>
    refine absurd ?_ (hl user)
    exact hd.2.1.trans (congrArg Except.ok hfound)
  | @occupied other bound hb hne =>
    obtain rfl : other = user := by
      have he : some other = some user := (Except.ok.inj hd.2.1).trans hfound
      exact Option.some.inj he
    rcases hu with hu | hu
    · cases hu.symm.trans hb
    · exact absurd (Option.some.inj (hb.symm.trans hu)) hne
  | @bound other _ _ _ =>
    have he : some other = some user := (Except.ok.inj hd.2.1).trans hfound
    exact ⟨rfl, he⟩

/-- A server that issues a challenge makes the preparation succeed. -/
theorem DevicePrepared.of_cooperative (hp : DevicePrepared configuration s h ok s')
    (hd : Answers d (inquiriesOf h) d') (hcoop : ∀ e ∈ h, cooperates e = true)
    (ha : configuration.attributes.get? DeviceMethod.applicationIdKey = some applicationId)
    (hid : s.id ≠ "") (hu : s.user = some user) :
    ok = true ∧ ∃ workflow challenge, s' = s.storeChallenge workflow challenge := by
  cases hp with
  | unready hn =>
    rcases hn with hn | hn | hn
    · exact absurd hn hid
    · cases hn.symm.trans hu
    · cases hn.symm.trans ha
  | unknown _ _ _ => cases hd.1
  | issued _ _ _ => exact ⟨rfl, _, _, rfl⟩
  | noDevice _ _ _ _ =>
    have hs := hcoop _ (List.mem_cons_of_mem _ List.mem_cons_self)
    rw [cooperates_started] at hs
    cases hs
  | faulty _ _ _ _ =>
    have hs := hcoop _ (List.mem_cons_of_mem _ List.mem_cons_self)
    rw [cooperates_started] at hs
    cases hs

/-- With the right password the login goes on, and there is a workflow to respond to. -/
theorem OpenTo.passwordTurn (hs : OpenTo user s)
    (ht : PasswordTurn configuration ⟨user.userName, password⟩ s h outcome s')
    (hd : Answers d (inquiriesOf h) d') (hcoop : ∀ e ∈ h, cooperates e = true)
    (ha : configuration.attributes.get? DeviceMethod.applicationIdKey = some applicationId)
    (hk : d.entryFor? user.userName = some ⟨user, passwordDigest password⟩)
    (hname : user.userName ≠ "") (hpassword : password ≠ "") :
    outcome = .nextStep deviceStep DeviceMethod.devicePage ∧ ∃ workflow, Challenged user workflow s' := by
  cases ht with
  | outOfOrder hx => cases hx.symm.trans hs.expects
  | rejected _ hc => cases (hc.of_known hd hk hname hpassword hs.user_eq).1
  | @unprepared h₁ h₂ s₁ _ _ hc hp =>
    rw [inquiriesOf_append, Directory.answers_append] at hd
    obtain ⟨d₁, hd₁, hd₂⟩ := hd
    obtain ⟨-, hu⟩ := hc.of_known hd₁ hk hname hpassword hs.user_eq
    have hid : s₁.id ≠ "" := by
      rw [hc.eq_of_user]
      exact hs.id_ne
    cases (hp.of_cooperative hd₂ (List.forall_mem_append.1 hcoop).2 ha hid hu).1
  | @prepared h₁ h₂ s₁ s₂ hx hc hp =>
    rw [inquiriesOf_append, Directory.answers_append] at hd
    obtain ⟨d₁, hd₁, hd₂⟩ := hd
    obtain ⟨-, hu⟩ := hc.of_known hd₁ hk hname hpassword hs.user_eq
    have hid : s₁.id ≠ "" := by
      rw [hc.eq_of_user]
      exact hs.id_ne
    obtain ⟨-, workflow, challenge, rfl⟩ :=
      hp.of_cooperative hd₂ (List.forall_mem_append.1 hcoop).2 ha hid hu
    refine ⟨rfl, workflow, ?_, hu, Session.startedWorkflow?_storeChallenge s₁ workflow challenge⟩
    have hnot : s₁.completed = false := by
      rw [hc.eq_of_user]
      exact (Flow.expects_eq_true_iff.1 hx).1
    exact Flow.expects_eq_true_iff.2 ⟨hnot, rfl⟩

/-! ## The device -/

/-- Fields that are no response to the started workflow are refused without any consequence. -/
theorem Challenged.misses (hs : Challenged user workflow s) (hm : Misses workflow p)
    (ht : DeviceTurn configuration p s h outcome s') : outcome = .failed deviceStep ∧ s' = s := by
  have hunfit : ∀ v bound token, ¬Submits p s v bound token := by
    intro v bound token hsub
    obtain rfl := Option.some.inj (hsub.started_eq.symm.trans hs.started_eq)
    rcases hm with hm | hm
    · cases hm.symm.trans hsub.token_eq
    · exact hm hsub.workflow_eq
  cases ht with
  | outOfOrder _ => exact ⟨rfl, rfl⟩
  | rejected _ hd =>
    generalize false = ok at hd
    cases hd with
    | unfit _ => exact ⟨rfl, rfl⟩
    | judged hsub _ => exact absurd hsub (hunfit _ _ _)
  | accepted _ hd =>
    obtain ⟨_, _, _, _, _, hsub, -⟩ := hd.of_true
    exact absurd hsub (hunfit _ _ _)

/-- The response to the started workflow completes the login. -/
theorem Challenged.deviceTurn {token : String} (hs : Challenged user workflow s)
    (ht : DeviceTurn configuration p s h outcome s') (hcoop : ∀ e ∈ h, cooperates e = true)
    (htoken : p.firstValue? DeviceMethod.tokenField = some token)
    (hworkflow : p.firstValue? DeviceMethod.workflowField = some workflow.name) :
    outcome = .completed := by
  cases ht with
  | outOfOrder hx => cases hx.symm.trans hs.expects
  | accepted _ _ => rfl
  | rejected _ hd =>
    generalize hok : false = ok at hd
    cases hd with
    | unfit hn => exact absurd ⟨htoken, hworkflow, hs.user_eq, hs.started_eq⟩ (hn workflow user token)
    | judged _ _ =>
      have hfinished := hcoop _ List.mem_cons_self
      rw [cooperates_finished, ← hok] at hfinished
      cases hfinished

/-! ## The whole login -/

variable {a : Posting} {site site' : Site} {place : Nat}

/-- As long as only such fields are submitted, the session keeps waiting for the response. -/
theorem Challenged.played {turns : List PostingTurn}
    (hplay : Played (Site.post configuration) site turns site')
    (hs : Challenged user workflow (site.sessions place))
    (hturns : ∀ t ∈ turns, ∃ p, t.command = ⟨place, .token p⟩ ∧ Misses workflow p) :
    site'.sessions place = site.sessions place ∧ ∀ t ∈ turns, t.reply = .failed deviceStep := by
  induction hplay with
  | nil => exact ⟨rfl, nofun⟩
  | @snoc front t _ hy ih =>
    obtain ⟨hfront, hlast⟩ := List.forall_mem_append.1 hturns
    obtain ⟨hkept, hall⟩ := ih hfront
    obtain ⟨p, hcommand, hm⟩ := hlast t List.mem_cons_self
    obtain ⟨full, hp, -⟩ := post_yields_iff.1 hy
    have hyt := hp.yields
    rw [hcommand] at hyt
    rw [← hkept] at hs
    obtain ⟨hreply, hafter⟩ := hs.misses hm (deviceTurn_of_yields hyt)
    refine ⟨hafter.trans hkept, List.forall_mem_append.2 ⟨hall, ?_⟩⟩
    exact List.forall_mem_singleton.2 hreply

/-- After any number of such submissions the response completes the login. -/
theorem Challenged.responded {turns : List PostingTurn} {refused : List Parameters} {token : String}
    (hs : Challenged user workflow (site.sessions place))
    (hplay : Played (Site.post configuration) site turns site')
    (hcommands : turns.map Turn.command = (refused ++ [p]).map fun r => ⟨place, .token r⟩)
    (hcoop : ∀ t ∈ turns, ∀ e ∈ t.exchanges, cooperates e = true)
    (hm : ∀ r ∈ refused, Misses workflow r)
    (htoken : p.firstValue? DeviceMethod.tokenField = some token)
    (hworkflow : p.firstValue? DeviceMethod.workflowField = some workflow.name) :
    ∃ between last, turns = between ++ [last] ∧ (∀ t ∈ between, t.reply = .failed deviceStep) ∧
      last.before.sessions place = site.sessions place ∧ last.reply = .completed := by
  rw [List.map_append] at hcommands
  obtain ⟨between, ends, rfl, hbetween, hends⟩ := List.map_eq_append_iff.1 hcommands
  obtain ⟨last, rfl, hlast⟩ := List.map_eq_singleton_iff.1 hends
  obtain ⟨hmiddle, hy, -⟩ := hplay.split rfl
  obtain ⟨hkept, hfailed⟩ := hs.played hmiddle fun t ht => by
    have hcommand := List.mem_map_of_mem (f := Turn.command) ht
    rw [hbetween] at hcommand
    obtain ⟨r, hr, he⟩ := List.mem_map.1 hcommand
    exact ⟨r, he.symm, hm r hr⟩
  obtain ⟨full, hp, houtside⟩ := post_yields_iff.1 hy
  have hyt := hp.yields
  rw [hlast, hkept] at hyt
  have hcoopLast : ∀ e ∈ outsideOf full, cooperates e = true := by
    rw [← houtside]
    exact hcoop last (List.mem_append_right _ List.mem_cons_self)
  refine ⟨between, last, rfl, hfailed, hkept, ?_⟩
  exact hs.deviceTurn (deviceTurn_of_yields hyt) (fun _ he => cooperates_of_outside hcoopLast he)
    htoken hworkflow

/-- A session that is found waiting for a password is open to its user, whatever happened before. -/
theorem openTo_of_played {id : String} {made : Instant} {turns : List PostingTurn}
    (hplay : Played (Site.post configuration) site turns site')
    (hstart : site.sessions place = Session.start id made) (hid : id ≠ "")
    (hstep : (site'.sessions place).step = passwordStep)
    (hu : (site'.sessions place).user = none ∨ (site'.sessions place).user = some user) :
    OpenTo user (site'.sessions place) := by
  obtain ⟨own, hown⟩ := played_at hplay place
  rw [hstart] at hown
  obtain ⟨standing, hstands⟩ := stands_of_played hown
  have hstanding : standing.step = passwordStep := hstands.step_eq.symm.trans hstep
  refine ⟨?_, Flow.expects_eq_true_iff.2 ⟨?_, hstep⟩, hu⟩
  · rw [(phase_of_played_device hown).2]
    exact hid
  · cases standing with
    | password => exact hstands.2.1
    | device _ => cases hstanding
    | completed => cases hstanding

/-- The rightful user is sent on to the device. -/
theorem OpenTo.posted (hs : OpenTo user (site.sessions place))
    (hp : Posted configuration ⟨place, .credentials ⟨user.userName, password⟩ p⟩ site h outcome site')
    (hcoop : ∀ e ∈ outsideOf h, cooperates e = true)
    (ha : configuration.attributes.get? DeviceMethod.applicationIdKey = some applicationId)
    (hk : site.directory.entryFor? user.userName = some ⟨user, passwordDigest password⟩)
    (hname : user.userName ≠ "") (hpassword : password ≠ "") :
    outcome = .nextStep deviceStep DeviceMethod.devicePage ∧
      ∃ workflow, Challenged user workflow (site'.sessions place) :=
  hs.passwordTurn (passwordTurn_of_yields hp.yields) hp.answers
    (fun _ he => cooperates_of_outside hcoop he) ha hk hname hpassword

/-- Whatever was submitted to the sessions of a site before, and whatever the server answered: if the
session of a place still waits for a password and belongs to nobody else, a known user who submits the
right password is sent on to the device, and if the server cooperates from then on, any response to the
workflow that is shown completes the login, also after submissions that were no response. -/
theorem rightful_login_completes {σ τ ρ : Type} {policy : Fido.RetryPolicy} {attributes : Attributes}
    {setup : Responder surroundings τ} {w₀ : τ}
    (hc : ((DeviceMethod.configure policy attributes).run setup w₀).value = .ok configuration)
    {id : String} {made : Instant} (hstart : site.sessions place = Session.start id made) (hid : id ≠ "")
    (hk : site.directory.entryFor? user.userName = some ⟨user, passwordDigest password⟩)
    (hname : user.userName ≠ "") (hpassword : password ≠ "") {others : Responder surroundings σ}
    {postings : List Posting} {w : σ} {now : Site}
    (hnow : now = leftAfter site (play (Site.post configuration) others postings site w))
    (hstep : (now.sessions place).step = passwordStep)
    (hu : (now.sessions place).user = none ∨ (now.sessions place).user = some user)
    {later : Responder surroundings ρ} (hlater : ∀ q w, cooperates ⟨q, (later.respond q w).1⟩ = true)
    (w₁ : ρ) (p : Parameters) :
    ∃ workflow, ∀ refused response, (∀ r ∈ refused, Misses workflow r) →
      response.firstValue? DeviceMethod.tokenField ≠ none →
      response.firstValue? DeviceMethod.workflowField = some workflow.name →
      ∃ first between last,
        play (Site.post configuration) later
          (⟨place, .credentials ⟨user.userName, password⟩ p⟩ ::
            (refused ++ [response]).map fun r => ⟨place, .token r⟩) now w₁ =
          first :: (between ++ [last]) ∧
        first.reply = .nextStep deviceStep DeviceMethod.devicePage ∧
        (first.after.sessions place).pending.workflow = some workflow ∧
        (∀ t ∈ between, t.reply = .failed deviceStep) ∧
        last.before.sessions place = first.after.sessions place ∧ last.reply = .completed := by
  have hplay := played_play (Site.post configuration) others postings site w
  rw [← hnow] at hplay
  have hyc := Program.yields_run setup (DeviceMethod.configure policy attributes) w₀
  rw [hc] at hyc
  obtain ⟨applicationId, -, ha⟩ := applicationId_of_configure hyc
  have hknown : now.directory.entryFor? user.userName = some ⟨user, passwordDigest password⟩ := by
    unfold Directory.entryFor?
    rw [entries_of_played hplay]
    exact hk
  -- The password is submitted,
  let command : Posting := ⟨place, .credentials ⟨user.userName, password⟩ p⟩
  let o := (Site.post configuration command now).run later w₁
  have hy : (Site.post configuration command now).Yields o.exchanges (o.value.1, o.value.2) :=
    Program.yields_run later (Site.post configuration command now) w₁
  obtain ⟨full, hp, houtside⟩ := post_yields_iff.1 hy
  have hcoop : ∀ e ∈ outsideOf full, cooperates e = true := by
    rw [← houtside]
    exact Program.exchanges_run (P := fun e => cooperates e = true) hlater _ _
  obtain ⟨hreply, workflow, hchallenged⟩ := (openTo_of_played hplay hstart hid hstep hu).posted hp
    hcoop ha hknown hname hpassword
  refine ⟨workflow, fun refused response hm htoken hworkflow => ?_⟩
  -- and then whatever comes before the response.
  obtain ⟨token, htoken⟩ := Option.ne_none_iff_exists'.1 htoken
  let commands : List Posting := (refused ++ [response]).map fun r => ⟨place, .token r⟩
  obtain ⟨between, last, hrest, hfailed, hkept, hlast⟩ := hchallenged.responded
    (played_play (Site.post configuration) later commands o.value.2 o.state)
    (map_command_play _ _ _ _ _)
    (exchanges_play (P := fun e => cooperates e = true) hlater _ _ _ _) hm htoken hworkflow
  exact ⟨⟨command, now, o.exchanges, o.value.1, o.value.2⟩, between, last,
    congrArg (List.cons _) hrest, hreply, hchallenged.started_eq, hfailed, hkept, hlast⟩

/-- A response of a device to a workflow. -/
def responseTo (workflow : Workflow) : Parameters :=
  .ofPairs [(DeviceMethod.tokenField, "signed"), (DeviceMethod.workflowField, workflow.name)]

theorem cooperates_obliging (question : surroundings.Question) (w : Unit) :
    cooperates ⟨question, (obliging.respond question w).1⟩ = true := by
  cases question with
  | directory query => rfl
  | fido call => cases call <;> rfl
  | pause milliseconds => rfl

/-- Alice mistypes her password, while somebody else fails in another session. Later she logs in. -/
theorem alice_gets_in_after_mistakes :
    let alice : Directory.Seed := ⟨"alice", "user", "inum", passwordDigest "secret", []⟩
    let site : Site := ⟨fun _ => Session.start "session" ⟨0⟩, .ofSeeds [alice]⟩
    let now := leftAfter site (play (Site.post obligingConfiguration) obliging
      [⟨0, .credentials ⟨"alice", "guess"⟩ .empty⟩, ⟨1, .token (responseTo .enroll)⟩] site ())
    ∃ workflow first between last,
      play (Site.post obligingConfiguration) obliging
        [⟨0, .credentials ⟨"alice", "secret"⟩ .empty⟩, ⟨0, .token .empty⟩,
          ⟨0, .token (responseTo workflow)⟩] now () = first :: (between ++ [last]) ∧
      last.reply = .completed := by
  intro alice site now
  have hknown : site.directory.entryFor? alice.user.userName =
      some ⟨alice.user, passwordDigest "secret"⟩ := rfl
  have hnow : now = leftAfter site (play (Site.post obligingConfiguration) obliging
      [⟨0, .credentials ⟨"alice", "guess"⟩ .empty⟩, ⟨1, .token (responseTo .enroll)⟩] site ()) := rfl
  have hstart : site.sessions 0 = Session.start "session" ⟨0⟩ := rfl
  have huser : (now.sessions 0).user = none := by decide +kernel
  obtain ⟨workflow, h⟩ := rightful_login_completes configure_obliging hstart (by decide) hknown
    (by decide) (by decide) hnow (by decide +kernel) (.inl huser) cooperates_obliging () .empty
  obtain ⟨first, between, last, hturns, -, -, -, -, hlast⟩ :=
    h [.empty] (responseTo workflow) (fun r hr => .inl (by rw [List.mem_singleton.1 hr]; rfl))
      (by cases workflow <;> decide) (by cases workflow <;> decide)
  exact ⟨workflow, first, between, last, hturns, hlast⟩

end TwoStepLogin.Login
