import TwoStepLogin.Proofs.Account.DirectoryParts
import TwoStepLogin.Proofs.Login.Enrollment
import TwoStepLogin.Proofs.Login.SiteTurns

/-!
# The same submission at two sites

What comes of a submission depends on the session, on the users of the directory and on the devices of
the user that the session belongs to in the end, and on nothing else. Other devices it leaves alone.

* `Login.user_kept_of_submit` — a session never changes hands;
* `Login.Posted.concerned_eq` — the directory is only asked about devices of the user of the session;
* `Login.Site.turn` — a submission when the server remembers nothing;
* `Login.PostingTurn.seenAt` — what can be seen of it at a place;
* `Login.Alike` — sites that look alike from a place;
* `Login.Alike.turn` — a submission at that place has the same consequences at both;
* `Login.agree_turn` — and none for devices of others.
-/

set_option autoImplicit false

namespace TwoStepLogin.Login

open Directory (Inquiry Answers Agree)

variable {configuration : Configuration} {applicationId : String} {c : Credentials} {p : Parameters}
  {a : Posting} {site site' site₁ : Site} {place : Nat} {full h : List (Exchange surroundings)}
  {outcome : StepOutcome} {s s' : Session} {user : User} {ok : Bool} {submission : Submission}
  {P : String → Prop}

/-! ## The user of a session -/

theorem PasswordChecked.user_kept (hc : PasswordChecked c s h ok s') (hu : s.user = some user) :
    s'.user = some user := by
  cases hc with
  | blank _ => exact hu
  | rejected => exact hu
  | lost _ => exact hu
  | occupied _ _ => exact hu
  | bound _ _ hs =>
    rcases hs with hs | hs
    · cases hs.symm.trans hu
    · exact hs.symm.trans hu

theorem PasswordTurn.user_kept (ht : PasswordTurn configuration c s h outcome s')
    (hu : s.user = some user) : s'.user = some user := by
  cases ht with
  | outOfOrder _ => exact hu
  | rejected _ hc => exact hc.user_kept hu
  | unprepared _ hc hp => exact hp.user_eq.trans (hc.user_kept hu)
  | prepared _ hc hp => exact hp.user_eq.trans (hc.user_kept hu)

/-- A session never changes hands. -/
theorem user_kept_of_submit
    (hy : ((deviceFlow configuration).submit submission s).Yields h (outcome, s'))
    (hu : s.user = some user) : s'.user = some user := by
  cases submission with
  | credentials c p => exact (passwordTurn_of_yields hy).user_kept hu
  | token p => exact (deviceTurn_of_yields hy).user_eq.trans hu

theorem Posted.user_kept (hp : Posted configuration a site full outcome site')
    (hu : (site.sessions place).user = some user) : (site'.sessions place).user = some user := by
  by_cases hplace : place = a.place
  · subst hplace
    exact user_kept_of_submit hp.yields hu
  · rw [hp.others place hplace]
    exact hu

/-! ## Whose devices are concerned -/

theorem concernsDevices_of_concerned? {e : Inquiry} {inum : String}
    (he : e.question.concerned? = some inum) : concernsDevices e = true := by
  obtain ⟨query, answer⟩ := e
  cases query with
  | findDevices _ _ => rfl
  | record _ => rfl
  | authenticate _ _ => cases he
  | findUser _ => cases he

/-- The directory is only asked about devices of the user of the session. -/
theorem Posted.concerned_eq
    (ha : configuration.attributes.get? DeviceMethod.applicationIdKey = some applicationId)
    (hp : Posted configuration a site full outcome site') {e : Inquiry} (he : e ∈ inquiriesOf full)
    {inum : String} (hinum : e.question.concerned? = some inum) :
    ∃ user, (site'.sessions a.place).user = some user ∧ user.inum = inum := by
  have hv := visits_of_submit ha hp.yields _ _ hp.answers
  have hmem := List.mem_filter.2 ⟨he, concernsDevices_of_concerned? hinum⟩
  generalize (inquiriesOf full).filter concernsDevices = about at hv hmem
  generalize outsideOf full = outside, site'.directory = after at hv
  cases hv with
  | quiet => cases hmem
  | prepared hu =>
    rw [List.mem_singleton.1 hmem] at hinum
    exact ⟨_, hu, Option.some.inj hinum⟩
  | judged _ _ => cases hmem
  | enrolled hu _ =>
    rw [List.mem_singleton.1 hmem] at hinum
    exact ⟨_, user_kept_of_submit hp.yields hu, Option.some.inj hinum⟩

/-! ## One submission at two sites -/

/-- A submission when the server remembers nothing. -/
def Site.turn (configuration : Configuration) (server : Responder surroundings Unit) (site : Site)
    (a : Posting) : PostingTurn :=
  let o := (Site.post configuration a site).run server ()
  ⟨a, site, o.exchanges, o.value.1, o.value.2⟩

/-- A turn at a place, as far as it can be seen there. -/
def PostingTurn.seenAt (place : Nat) (t : PostingTurn) :
    Turn surroundings Submission Session StepOutcome :=
  ⟨t.command.submission, t.before.sessions place, t.exchanges, t.reply, t.after.sessions place⟩

/-- From a place, two sites look alike: the session there is the same, the directories have the same
users, and the same devices of those with certain inums. -/
structure Alike (P : String → Prop) (place : Nat) (site site₁ : Site) : Prop where
  session_eq : site.sessions place = site₁.sessions place
  agree : Agree P site.directory site₁.directory

theorem Alike.symm (h : Alike P place site site₁) : Alike P place site₁ site :=
  ⟨h.session_eq.symm, h.agree.symm⟩

/-- If the devices of the user are the same, this is also what comes of the submission at a site that
looks alike. -/
theorem Posted.mirror
    (ha : configuration.attributes.get? DeviceMethod.applicationIdKey = some applicationId)
    (hp : Posted configuration a site full outcome site') (hs : Alike P a.place site site₁)
    (hu : ∀ user, (site'.sessions a.place).user = some user → P user.inum) :
    ∃ site₁', Posted configuration a site₁ full outcome site₁' ∧ Alike P a.place site' site₁' := by
  obtain ⟨d₁, hd₁, hagree⟩ := hp.answers.transfer hs.agree fun e he inum hinum => by
    obtain ⟨user, huser, rfl⟩ := hp.concerned_eq ha he hinum
    exact hu user huser
  have hy := hp.yields
  rw [hs.session_eq] at hy
  refine ⟨⟨Function.update site₁.sessions a.place (site'.sessions a.place), d₁⟩, ⟨?_, hd₁, ?_⟩, ?_, hagree⟩
  · show ((deviceFlow configuration).submit a.submission _).Yields full
      (outcome, Function.update site₁.sessions a.place (site'.sessions a.place) a.place)
    rwa [Function.update_self]
  · exact fun place hne => Function.update_of_ne hne _ site₁.sessions
  · exact (Function.update_self a.place _ site₁.sessions).symm

section

variable (server : Responder surroundings Unit)

/-- Whatever is asked of a server that remembers nothing, the answer depends on the question only. -/
theorem answer_of_turn : ∀ e ∈ (site.turn configuration server a).exchanges,
    e.answer = (server.respond e.question ()).1 :=
  Program.exchanges_run (P := fun e => e.answer = (server.respond e.question ()).1)
    (fun _ _ => rfl) _ _

theorem posted_turn (configuration : Configuration) (site : Site) (a : Posting) :
    ∃ full, Posted configuration a site full (site.turn configuration server a).reply
        (site.turn configuration server a).after ∧
      (site.turn configuration server a).exchanges = outsideOf full :=
  post_yields_iff.1 (Program.yields_run server (Site.post configuration a site) ())

/-- What can come of a submission with the answers of this server is what comes of it. -/
theorem Posted.turn_eq (hp : Posted configuration a site full outcome site')
    (hanswer : ∀ e ∈ outsideOf full, e.answer = (server.respond e.question ()).1) :
    site.turn configuration server a = ⟨a, site, outsideOf full, outcome, site'⟩ := by
  obtain ⟨he, hv⟩ := Program.yields_unique (fun q => (server.respond q ()).1)
    (post_yields_iff.2 ⟨full, hp, rfl⟩)
    (Program.yields_run server (Site.post configuration a site) ()) hanswer (answer_of_turn server)
  rw [Site.turn, he, hv]

/-- A submission has the same consequences at sites that look alike, if they agree on the devices of
whoever the session belongs to afterwards. -/
theorem Alike.turn
    (ha : configuration.attributes.get? DeviceMethod.applicationIdKey = some applicationId)
    (hs : Alike P a.place site site₁)
    (hu : ∀ user, ((site.turn configuration server a).after.sessions a.place).user = some user →
      P user.inum) :
    (site₁.turn configuration server a).seenAt a.place =
        (site.turn configuration server a).seenAt a.place ∧
      Alike P a.place (site.turn configuration server a).after
        (site₁.turn configuration server a).after := by
  obtain ⟨full, hp, he⟩ := posted_turn server configuration site a
  obtain ⟨site₁', hp₁, hs₁⟩ := hp.mirror ha hs hu
  rw [hp₁.turn_eq server (he ▸ answer_of_turn server)]
  refine ⟨?_, hs₁⟩
  simp only [PostingTurn.seenAt, ← he, ← hs₁.session_eq, ← hs.session_eq]
  rfl

/-- A submission leaves the devices alone that do not belong to the user of the session. -/
theorem agree_turn
    (ha : configuration.attributes.get? DeviceMethod.applicationIdKey = some applicationId)
    (hu : ∀ user, ((site.turn configuration server a).after.sessions a.place).user = some user →
      ¬P user.inum) :
    Agree P site.directory (site.turn configuration server a).after.directory := by
  obtain ⟨full, hp, -⟩ := posted_turn server configuration site a
  refine hp.answers.agree fun e he inum hinum => ?_
  obtain ⟨user, huser, rfl⟩ := hp.concerned_eq ha he hinum
  exact hu user huser

end

end TwoStepLogin.Login
