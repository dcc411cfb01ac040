import TwoStepLogin.Proofs.Login.SharedDirectory

/-!
# Enrolled once

Whoever has enrolled a device is never asked to enrol one again: not in this session, nor in any
other one that shares the directory. And only a device that the server accepted is added.

* `Login.Visited`, `Login.Visits` — the ends of any step of a login, as far as devices are concerned;
* `Login.registeredBy` — all that was ever registered, by whomever;
* `Login.KeepsDevices`, `Login.StartsAsRegistered`, `Login.EnrolledForGood`, `Login.AddsAccepted` —
  what a turn does about devices;
* `Login.enrolled_users_stay_enrolled` — every turn does so.
-/

set_option autoImplicit false

namespace TwoStepLogin.Login

open Directory (Inquiry Answers requested? added? IsFor)

/-! ## What is seen of devices -/

/-- The directory is asked for devices, or to add one. -/
def concernsDevices : Inquiry → Bool
  | ⟨.findDevices _ _, _⟩ => true
  | ⟨.record _, _⟩ => true
  | _ => false

/-- The server is asked to start an enrollment. -/
def startsEnrollment : Exchange surroundings → Bool
  | ⟨.fido (.startRegistration ..), _⟩ => true
  | _ => false

/-- The server accepts a new device. -/
def acceptsDevice : Exchange surroundings → Bool
  | ⟨.fido (.finishRegistration ..), answer⟩ => isAccepted answer
  | _ => false

theorem requested?_eq_none {e : Inquiry} (he : concernsDevices e = false) : requested? e = none := by
  obtain ⟨query, answer⟩ := e
  cases query with
  | record registration => cases he
  | authenticate _ _ => rfl
  | findUser _ => rfl
  | findDevices _ _ => rfl

/-- Only inquiries about devices ask to add one. -/
theorem filterMap_requested? (asked : List Inquiry) :
    asked.filterMap requested? = (asked.filter concernsDevices).filterMap requested? := by
  rw [List.filterMap_filter]
  congr 1
  funext e
  cases he : concernsDevices e with
  | false => exact requested?_eq_none he
  | true => rfl

section

variable {configuration : Configuration} {workflow : Workflow} {user : User}
  {applicationId sessionId token : String} {challenge : Except Fido.Fault Json}
  {verdict : Except Fido.Fault Fido.Status}

@[simp] theorem inquiry?_finished :
    inquiry? (finished configuration workflow user token verdict) = none := by
  cases workflow <;> rfl

/-- The directory sees the lookup only. -/
theorem inquiriesOf_lookup {inum : String}
    {found : Except Directory.Fault (List DeviceRegistration)} :
    inquiriesOf [told (.findDevices inum applicationId) found,
        started configuration workflow user applicationId sessionId challenge] =
      [⟨.findDevices inum applicationId, found⟩] := by
  cases workflow <;> rfl

/-- The server sees the start of the workflow only. -/
theorem outsideOf_lookup {inum : String}
    {found : Except Directory.Fault (List DeviceRegistration)} :
    outsideOf [told (.findDevices inum applicationId) found,
        started configuration workflow user applicationId sessionId challenge] =
      [started configuration workflow user applicationId sessionId challenge] := by
  cases workflow <;> rfl

theorem startsEnrollment_started :
    startsEnrollment (started configuration workflow user applicationId sessionId challenge) = true ↔
      workflow = .enroll := by
  cases workflow <;> simp [started, called, startsEnrollment]

@[simp] theorem acceptsDevice_started :
    acceptsDevice (started configuration workflow user applicationId sessionId challenge) = false := by
  cases workflow <;> rfl

@[simp] theorem startsEnrollment_finished :
    startsEnrollment (finished configuration workflow user token verdict) = false := by
  cases workflow <;> rfl

theorem acceptsDevice_finished :
    acceptsDevice (finished configuration workflow user token verdict) = true ↔
      workflow = .enroll ∧ isAccepted verdict = true := by
  cases workflow <;> simp [finished, called, acceptsDevice]

end

theorem workflowFor_eq_enroll_iff {devices : List DeviceRegistration} :
    workflowFor devices = .enroll ↔ devices = [] := by
  cases devices <;> simp [workflowFor]

/-! ## The ends of a step -/

/-- What a step of a login may do about devices, while the directory is `d`. -/
inductive Visited (configuration : Configuration) (applicationId : String) (d : Directory)
    (s : Session) : List Inquiry → List (Exchange surroundings) → Session → Directory → Prop where
  /-- Devices do not come into it. -/
  | quiet {s' : Session} : Visited configuration applicationId d s [] [] s' d
  /-- The user's devices are looked up, and the workflow that fits is started. -/
  | prepared {s' : Session} {user : User} {answer : Except Fido.Fault Json} : s'.user = some user →
      Visited configuration applicationId d s
        [⟨.findDevices user.inum applicationId, .ok (d.devices user.inum applicationId)⟩]
        [started configuration (workflowFor (d.devices user.inum applicationId)) user applicationId
          s'.id answer] s' d
  /-- A response is judged that does not enrol a device. -/
  | judged {s' : Session} {workflow : Workflow} {user : User} {token : String}
      {answer : Except Fido.Fault Fido.Status} : s.user = some user →
      acceptsDevice (finished configuration workflow user token answer) = false →
      Visited configuration applicationId d s [] [finished configuration workflow user token answer]
        s' d
  /-- A new device is accepted, and the directory is asked to add it. -/
  | enrolled {s' : Session} {user : User} {token : String}
      {answer : Except Fido.Fault Fido.Status} : s.user = some user → isAccepted answer = true →
      Visited configuration applicationId d s
        [⟨.record ⟨user.inum, applicationId, none⟩, (d.record ⟨user.inum, applicationId, none⟩).1⟩]
        [finished configuration .enroll user token answer] s'
        (d.record ⟨user.inum, applicationId, none⟩).2

variable {configuration : Configuration} {applicationId : String} {c : Credentials} {p : Parameters}
  {d d' : Directory} {s s' : Session} {h : List (Exchange surroundings)} {ok : Bool}
  {outcome : StepOutcome}

/-- With the answers of any directory, this conversation is one of these ends. -/
def Visits (configuration : Configuration) (applicationId : String) (s : Session)
    (h : List (Exchange surroundings)) (s' : Session) : Prop :=
  ∀ d d', Answers d (inquiriesOf h) d' →
    Visited configuration applicationId d s ((inquiriesOf h).filter concernsDevices) (outsideOf h) s'
      d'

/-- A step that asks nobody. -/
theorem visits_nil : Visits configuration applicationId s [] s' := by
  rintro d _ rfl
  exact .quiet

/-- With the password nobody asks about devices. -/
theorem PasswordChecked.asks (hc : PasswordChecked c s h ok s') :
    (inquiriesOf h).filter concernsDevices = [] ∧ outsideOf h = [] := by
  cases hc <;> exact ⟨rfl, rfl⟩

/-- Nothing changes unless devices come into it. -/
theorem answers_eq_self {asked : List Inquiry} (hd : Answers d asked d')
    (hq : asked.filter concernsDevices = []) : d' = d := by
  refine hd.eq_self fun e he => requested?_eq_none ?_
  simpa using List.filter_eq_nil_iff.1 hq e he

theorem PasswordChecked.visits (hc : PasswordChecked c s h ok s') :
    Visits configuration applicationId s h s' := by
  intro d d' hd
  obtain ⟨hasked, houtside⟩ := hc.asks
  rw [answers_eq_self hd hasked, hasked, houtside]
  exact .quiet

/-- A preparation asks nobody, or looks devices up and starts the workflow that fits. -/
theorem DevicePrepared.asks (hp : DevicePrepared configuration s h ok s') :
    h = [] ∨ ∃ user applicationId, s.user = some user ∧
      configuration.attributes.get? DeviceMethod.applicationIdKey = some applicationId ∧
      ((∃ fault, h = [told (.findDevices user.inum applicationId) (.error fault)]) ∨
        ∃ devices answer, h = [told (.findDevices user.inum applicationId) (.ok devices),
          started configuration (workflowFor devices) user applicationId s.id answer]) := by
  cases hp with
  | unready _ => exact .inl rfl
  | unknown _ hu ha => exact .inr ⟨_, _, hu, ha, .inl ⟨_, rfl⟩⟩
  | issued _ hu ha => exact .inr ⟨_, _, hu, ha, .inr ⟨_, _, rfl⟩⟩
  | noDevice _ hu ha hw => exact .inr ⟨_, _, hu, ha, .inr ⟨_, _, by rw [hw]⟩⟩
  | faulty _ hu ha _ => exact .inr ⟨_, _, hu, ha, .inr ⟨_, _, rfl⟩⟩

section

variable (ha : configuration.attributes.get? DeviceMethod.applicationIdKey = some applicationId)
include ha

/-- Whoever the session belonged to before, and whatever is done with it afterwards. -/
theorem DevicePrepared.visits {before after : Session} (hp : DevicePrepared configuration s h ok s')
    (hid : after.id = s.id) (hu : after.user = s.user) :
    Visits configuration applicationId before h after := by
  obtain rfl | ⟨user, named, huser, hnamed, ⟨fault, rfl⟩ | ⟨devices, answer, rfl⟩⟩ := hp.asks
  · exact visits_nil
  · -- A directory in memory always finds its devices.
    rintro d d' ⟨hfault, -⟩
    cases hfault
  · obtain rfl : named = applicationId := Option.some.inj (hnamed.symm.trans ha)
    intro d d' hd
    rw [inquiriesOf_lookup] at hd ⊢
    obtain ⟨hfound, rfl⟩ := hd
    cases hfound
    rw [outsideOf_lookup, ← hid]
    exact .prepared (hu.trans huser)

/-- Whatever is done with the session afterwards. -/
theorem DeviceChecked.visits {after : Session} (hc : DeviceChecked configuration p s h ok s') :
    Visits configuration applicationId s h after := by
  cases hc with
  | unfit _ => exact visits_nil
  | @judged workflow user token answer recorded hs hr =>
    intro d d' hd
    have hinquiries : inquiriesOf (finished configuration workflow user token answer :: recorded) =
        inquiriesOf recorded := List.filterMap_cons_none inquiry?_finished
    have houtside : outsideOf (finished configuration workflow user token answer :: recorded) =
        finished configuration workflow user token answer :: outsideOf recorded :=
      List.filter_cons_of_pos (by simp)
    rw [hinquiries] at hd ⊢
    rw [houtside]
    cases hr with
    | nothing hn =>
      obtain rfl : d' = d := hd
      refine .judged hs.user_eq ?_
      rw [Bool.eq_false_iff, Ne, acceptsDevice_finished]
      rintro ⟨hw, hok⟩
      cases ha.symm.trans (hn hok hw)
    | device hok hw hnamed =>
      cases hw
      cases ha.symm.trans hnamed
      obtain ⟨rfl, rfl⟩ := hd
      exact .enrolled hs.user_eq hok

/-- A password is accepted, then the device step is prepared. -/
theorem visits_after_password {s₁ after : Session} {h₁ h₂ : List (Exchange surroundings)}
    (hc : PasswordChecked c s h₁ true s₁) (hp : DevicePrepared configuration s₁ h₂ ok s')
    (hid : after.id = s₁.id) (hu : after.user = s₁.user) :
    Visits configuration applicationId s (h₁ ++ h₂) after := by
  intro d d' hd
  rw [inquiriesOf_append, Directory.answers_append] at hd
  obtain ⟨d₁, hd₁, hd₂⟩ := hd
  obtain ⟨hasked, houtside⟩ := hc.asks
  obtain rfl := answers_eq_self hd₁ hasked
  rw [inquiriesOf_append, outsideOf_append, List.filter_append, hasked, houtside, List.nil_append,
    List.nil_append]
  exact hp.visits ha hid hu _ _ hd₂

theorem PasswordTurn.visits (ht : PasswordTurn configuration c s h outcome s') :
    Visits configuration applicationId s h s' := by
  cases ht with
  | outOfOrder _ => exact visits_nil
  | rejected _ hc => exact hc.visits
  | unprepared _ hc hp =>
    obtain rfl := hp.eq_of_false
    exact visits_after_password ha hc hp rfl rfl
  | prepared _ hc hp =>
    have hkept := hp.eq_of_attributes
    refine visits_after_password ha hc hp ?_ ?_
    · rw [hkept]
      rfl
    · rw [hkept]
      rfl

theorem DeviceTurn.visits (ht : DeviceTurn configuration p s h outcome s') :
    Visits configuration applicationId s h s' := by
  cases ht with
  | outOfOrder _ => exact visits_nil
  | rejected _ hc => exact hc.visits ha
  | accepted _ hc => exact hc.visits ha

theorem visits_of_submit {submission : Submission}
    (hy : ((deviceFlow configuration).submit submission s).Yields h (outcome, s')) :
    Visits configuration applicationId s h s' := by
  cases submission with
  | credentials c p => exact (passwordTurn_of_yields hy).visits ha
  | token p => exact (deviceTurn_of_yields hy).visits ha

theorem visits_of_call {use : MethodUse} (hy : (use.act configuration s).Yields h (ok, s')) :
    Visits configuration applicationId s h s' := by
  cases use with
  | prepare step p =>
    obtain ⟨-, hp⟩ | ⟨-, rfl, -⟩ := prepare_yields hy
    · have hkept := hp.eq_of_attributes
      refine hp.visits ha ?_ ?_
      · rw [hkept]
      · rw [hkept]
    · exact visits_nil
  | authenticate step c p =>
    obtain ⟨-, hc⟩ | ⟨-, hc⟩ | ⟨-, -, rfl, -⟩ := authenticate_yields hy
    · exact hc.visits
    · exact hc.visits ha
    · exact visits_nil
  | change host =>
    obtain ⟨rfl, -⟩ := hy
    exact visits_nil

/-- A step of a login has no other ends. -/
theorem visits_of_act {step : LoginStep} (hy : (step.act configuration s).Yields h s') :
    Visits configuration applicationId s h s' := by
  cases step with
  | submit submission =>
    obtain ⟨_, h₁, _, rfl, hy₁, rfl, rfl⟩ := Program.yields_bind.1 hy
    rw [List.append_nil]
    exact visits_of_submit ha hy₁
  | call use =>
    obtain ⟨_, h₁, _, rfl, hy₁, rfl, rfl⟩ := Program.yields_bind.1 hy
    rw [List.append_nil]
    exact visits_of_call ha hy₁

end

/-- Whoever is looked up starts the workflow that fits the devices found. -/
theorem Visited.of_lookup {asked : List Inquiry} {inum application : String}
    {found : Except Directory.Fault (List DeviceRegistration)}
    (hv : Visited configuration applicationId d s asked h s' d')
    (hf : ⟨.findDevices inum application, found⟩ ∈ asked) :
    application = applicationId ∧ ∃ user answer, s'.user = some user ∧ user.inum = inum ∧
      h = [started configuration (workflowFor (d.devices inum applicationId)) user applicationId s'.id
        answer] := by
  cases hv with
  | quiet => cases hf
  | prepared hu =>
    cases List.mem_singleton.1 hf
    exact ⟨rfl, _, _, hu, rfl, rfl⟩
  | judged _ _ => cases hf
  | enrolled _ _ => cases List.mem_singleton.1 hf

/-- An enrollment is started only for a user without a device. -/
theorem Visited.of_start {asked : List Inquiry}
    (hv : Visited configuration applicationId d s asked h s' d')
    (hs : h.any startsEnrollment = true) :
    ∃ user, s'.user = some user ∧ d.devices user.inum applicationId = [] := by
  cases hv with
  | quiet => cases hs
  | prepared hu =>
    rw [List.any_cons, List.any_nil, Bool.or_false, startsEnrollment_started,
      workflowFor_eq_enroll_iff] at hs
    exact ⟨_, hu, hs⟩
  | judged _ _ =>
    rw [List.any_cons, List.any_nil, Bool.or_false, startsEnrollment_finished] at hs
    cases hs
  | enrolled _ _ => cases hs

/-- Either no device is accepted, and the directory stays as it is, or one device is accepted, and the
directory is asked once to add one for the user of the session. -/
theorem Visited.adds {asked : List Inquiry}
    (hv : Visited configuration applicationId d s (asked.filter concernsDevices) h s' d') :
    (h.filter acceptsDevice = [] ∧ asked.filterMap requested? = [] ∧ d' = d) ∨
      ∃ user accepted, s.user = some user ∧ h.filter acceptsDevice = [accepted] ∧
        asked.filterMap requested? = [⟨user.inum, applicationId, none⟩] ∧
        d' = (d.record ⟨user.inum, applicationId, none⟩).2 := by
  rw [filterMap_requested?]
  generalize asked.filter concernsDevices = about at hv
  cases hv with
  | quiet => exact .inl ⟨rfl, rfl, rfl⟩
  | prepared _ => exact .inl ⟨List.filter_cons_of_neg (by simp), rfl, rfl⟩
  | judged _ hn => exact .inl ⟨List.filter_cons_of_neg (by simp [hn]), rfl, rfl⟩
  | enrolled hu hok =>
    exact .inr ⟨_, _, hu, List.filter_cons_of_pos (acceptsDevice_finished.2 ⟨rfl, hok⟩), rfl, rfl⟩

/-! ## All that was ever registered -/

variable {t : SiteTurn} {turns : List SiteTurn} {site site' : Site}

/-- What a step of a login does at its site. -/
theorem visited_of_login {place : Nat} {step : LoginStep}
    (ha : configuration.attributes.get? DeviceMethod.applicationIdKey = some applicationId)
    (hy : (Deed.act configuration t.command t.before).Yields t.exchanges (t.reply, t.after))
    (hc : t.command = .login place step) :
    Visited configuration applicationId t.before.directory (t.before.sessions place)
      (t.reply.filter concernsDevices) t.exchanges (t.after.sessions place) t.after.directory := by
  rw [hc] at hy
  obtain ⟨full, hfull, houtside, hasked, hd⟩ := login_yields hy
  rw [hasked] at hd ⊢
  rw [houtside]
  exact visits_of_act ha hfull _ _ hd

/-- The registrations that come with a turn. -/
def arrivals (t : SiteTurn) : List DeviceRegistration :=
  match t.command with
  | .addDevice registration => [registration]
  | _ => t.reply.filterMap added?

/-- All registrations so far: those of the seeds, and those that were added or recorded. -/
def registeredBy (seeds : List Directory.Seed) (turns : List SiteTurn) : List DeviceRegistration :=
  seeds.flatMap Directory.Seed.registrations ++ turns.flatMap arrivals

/-- A turn adds its registrations to the directory and takes none away. -/
theorem registrations_of_yields
    (hy : (Deed.act configuration t.command t.before).Yields t.exchanges (t.reply, t.after)) :
    t.after.directory.registrations = t.before.directory.registrations ++ arrivals t := by
  obtain ⟨command, before, h, asked, after⟩ := t
  change (Deed.act configuration command before).Yields h (asked, after) at hy
  cases command with
  | login place step =>
    obtain ⟨_, _, _, _, hd⟩ := login_yields hy
    exact hd.registrations_eq
  | addUser user password =>
    obtain ⟨-, he⟩ := hy
    cases he
    exact (List.append_nil _).symm
  | addDevice registration =>
    obtain ⟨-, he⟩ := hy
    cases he
    rfl
  | record registration =>
    obtain ⟨-, he⟩ := hy
    cases he
    have hd : Answers before.directory
        [⟨.record registration, (before.directory.record registration).1⟩]
        (before.directory.record registration).2 := ⟨rfl, rfl⟩
    exact hd.registrations_eq

/-- What a directory remembers is what was registered. -/
theorem registrations_of_played {seeds : List Directory.Seed} {sessions : Nat → Session}
    (hplay : Played (Deed.act configuration) ⟨sessions, .ofSeeds seeds⟩ turns site) :
    site.directory.registrations = registeredBy seeds turns := by
  induction hplay with
  | nil => rw [registeredBy, List.flatMap_nil, List.append_nil, Directory.ofSeeds_registrations]
  | @snoc turns t _ hy ih =>
    rw [registrations_of_yields hy, ih, registeredBy, registeredBy, List.flatMap_append,
      List.flatMap_singleton, List.append_assoc]

/-- Nothing registered is ever forgotten. -/
theorem prefix_of_played (hplay : Played (Deed.act configuration) site turns site') :
    site.directory.registrations <+: site'.directory.registrations := by
  induction hplay with
  | nil => exact List.prefix_rfl
  | snoc _ hy ih =>
    rw [registrations_of_yields hy]
    exact ih.trans (List.prefix_append _ _)

/-! ## What a turn does about devices -/

/-- Where there is a device, there is one ever after. -/
def KeepsDevices (t : SiteTurn) (later : List SiteTurn) : Prop :=
  ∀ inum applicationId, t.before.directory.devices inum applicationId ≠ [] →
    ∀ u ∈ t :: later, u.after.directory.devices inum applicationId ≠ []

/-- Whose devices are looked up is the user of the session, and the server is asked to start an
enrollment if none was registered so far, and an authentication otherwise. -/
def StartsAsRegistered (configuration : Configuration) (applicationId : String)
    (registered : List DeviceRegistration) (t : SiteTurn) : Prop :=
  ∀ inum application found, ⟨.findDevices inum application, found⟩ ∈ t.reply →
    application = applicationId ∧ ∃ place step user workflow answer,
      t.command = .login place step ∧ (t.after.sessions place).user = some user ∧ user.inum = inum ∧
      (workflow = .enroll ↔ ∀ r ∈ registered, ¬IsFor inum applicationId r) ∧
      t.exchanges = [started configuration workflow user applicationId (t.after.sessions place).id
        answer]

/-- After a device was accepted in the session of a current user, no enrollment is started for this
user in any session: whatever enrollment is started later is one of somebody else. -/
def EnrolledForGood (t : SiteTurn) (later : List SiteTurn) : Prop :=
  ∀ place step user, t.command = .login place step →
    (t.before.sessions place).user = some user → t.before.directory.knowsInum user.inum = true →
    t.exchanges.any acceptsDevice = true →
    ∀ u ∈ later, u.exchanges.any startsEnrollment = true → ∃ elsewhere step' other,
      u.command = .login elsewhere step' ∧ (u.after.sessions elsewhere).user = some other ∧
      other.inum ≠ user.inum

/-- A step of a login in which no device is accepted leaves the directory as it is. One in which a
device is accepted asks it to add exactly one, for the user of the session and the application, which
it does unless the user is gone. -/
def AddsAccepted (applicationId : String) (t : SiteTurn) : Prop :=
  ∀ place step, t.command = .login place step →
    (t.exchanges.filter acceptsDevice = [] ∧ t.reply.filterMap requested? = [] ∧
        t.after.directory = t.before.directory) ∨
      ∃ user accepted, (t.before.sessions place).user = some user ∧
        t.exchanges.filter acceptsDevice = [accepted] ∧
        t.reply.filterMap requested? = [⟨user.inum, applicationId, none⟩] ∧
        t.after.directory =
          if t.before.directory.knowsInum user.inum then
            t.before.directory.addDevice ⟨user.inum, applicationId, none⟩
          else t.before.directory

theorem keepsDevices_of_played {earlier later : List SiteTurn}
    (hplay : Played (Deed.act configuration) site (earlier ++ t :: later) site') :
    KeepsDevices t later := by
  intro inum application hne u hu
  obtain ⟨-, hy, hlater⟩ := hplay.split rfl
  obtain ⟨front, -, -, hfront, hyu⟩ := (Played.cons hy hlater).of_mem hu
  exact Directory.devices_ne_nil_of_prefix (prefix_of_played (.snoc hfront hyu)) hne

/-- Only steps of logins ask the server anything or look devices up. -/
theorem login_or_idle
    (hy : (Deed.act configuration t.command t.before).Yields t.exchanges (t.reply, t.after)) :
    (∃ place step, t.command = .login place step) ∨
      t.exchanges = [] ∧ ∀ inum application found, ⟨.findDevices inum application, found⟩ ∉ t.reply := by
  obtain ⟨command, before, h, asked, after⟩ := t
  change (Deed.act configuration command before).Yields h (asked, after) at hy
  cases command with
  | login place step => exact .inl ⟨place, step, rfl⟩
  | addUser user password =>
    obtain ⟨rfl, he⟩ := hy
    cases he
    exact .inr ⟨rfl, fun _ _ _ hf => by cases hf⟩
  | addDevice registration =>
    obtain ⟨rfl, he⟩ := hy
    cases he
    exact .inr ⟨rfl, fun _ _ _ hf => by cases hf⟩
  | record registration =>
    obtain ⟨rfl, he⟩ := hy
    cases he
    exact .inr ⟨rfl, fun _ _ _ hf => by cases List.mem_singleton.1 hf⟩

theorem startsAsRegistered_of_yields {registered : List DeviceRegistration}
    (ha : configuration.attributes.get? DeviceMethod.applicationIdKey = some applicationId)
    (hy : (Deed.act configuration t.command t.before).Yields t.exchanges (t.reply, t.after))
    (hr : t.before.directory.registrations = registered) :
    StartsAsRegistered configuration applicationId registered t := by
  intro inum application found hf
  obtain ⟨place, step, hc⟩ | ⟨-, hnone⟩ := login_or_idle hy
  · have hv := visited_of_login ha hy hc
    obtain ⟨rfl, user, answer, hu, hinum, he⟩ := hv.of_lookup (List.mem_filter.2 ⟨hf, rfl⟩)
    refine ⟨rfl, place, step, user, _, answer, hc, hu, hinum, ?_, he⟩
    rw [workflowFor_eq_enroll_iff, Directory.devices_eq_nil_iff, hr]
  · exact absurd hf (hnone inum application found)

theorem addsAccepted_of_yields
    (ha : configuration.attributes.get? DeviceMethod.applicationIdKey = some applicationId)
    (hy : (Deed.act configuration t.command t.before).Yields t.exchanges (t.reply, t.after)) :
    AddsAccepted applicationId t := by
  intro place step hc
  obtain hquiet | ⟨user, accepted, hu, haccepted, hasked, hd⟩ := (visited_of_login ha hy hc).adds
  · exact .inl hquiet
  · refine .inr ⟨user, accepted, hu, haccepted, hasked, hd.trans ?_⟩
    unfold Directory.record
    split <;> rfl

theorem enrolledForGood_of_played {earlier later : List SiteTurn}
    (ha : configuration.attributes.get? DeviceMethod.applicationIdKey = some applicationId)
    (hplay : Played (Deed.act configuration) site (earlier ++ t :: later) site') :
    EnrolledForGood t later := by
  intro place step user hc hu hknown haccepted u hmem hstarts
  obtain ⟨-, hy, hlater⟩ := hplay.split rfl
  obtain ⟨front, -, -, hfront, hyu⟩ := hlater.of_mem hmem
  -- The user has a device after the turn,
  have henrolled : t.after.directory.devices user.inum applicationId ≠ [] := by
    obtain ⟨hnone, -⟩ | ⟨bound, _, hbound, -, -, hd⟩ := addsAccepted_of_yields ha hy place step hc
    · rw [List.any_eq_true] at haccepted
      obtain ⟨e, he, hacc⟩ := haccepted
      exact absurd hacc (List.filter_eq_nil_iff.1 hnone e he)
    · obtain rfl : bound = user := Option.some.inj (hbound.symm.trans hu)
      rw [hd, if_pos hknown, Directory.devices_addDevice, if_pos ⟨rfl, rfl⟩]
      exact List.append_ne_nil_of_right_ne_nil _ (List.cons_ne_nil _ _)
  -- and has it still when an enrollment is started, which is therefore one of somebody else.
  have hstill := Directory.devices_ne_nil_of_prefix (prefix_of_played hfront) henrolled
  obtain ⟨elsewhere, step', hcu⟩ | ⟨hidle, -⟩ := login_or_idle hyu
  · obtain ⟨other, hother, hnone⟩ := (visited_of_login ha hyu hcu).of_start hstarts
    refine ⟨elsewhere, step', other, hcu, hother, ?_⟩
    rintro he
    rw [he] at hnone
    exact hstill hnone
  · rw [hidle] at hstarts
    cases hstarts

/-- Whatever steps of logins are taken around a directory in memory, in whatever sessions, whatever
is added to it in between, and whatever the server answers: a user who has a device keeps it, is asked
to enrol one only if none was ever registered, and after a device was accepted is not asked again in
any session; and a login adds a device only if the server accepted one, and exactly that one. -/
theorem enrolled_users_stay_enrolled {σ τ : Type} {policy : Fido.RetryPolicy}
    {attributes : Attributes} {configuration : Configuration} {setup : Responder surroundings τ}
    {w₀ : τ} (hc : ((DeviceMethod.configure policy attributes).run setup w₀).value = .ok configuration)
    (others : Responder surroundings σ) (seeds : List Directory.Seed) (sessions : Nat → Session)
    (deeds : List Deed) (w : σ) :
    ∃ applicationId, attributes.present? DeviceMethod.applicationIdKey = some applicationId ∧
      ∀ earlier t later,
        play (Deed.act configuration) others deeds ⟨sessions, .ofSeeds seeds⟩ w =
          earlier ++ t :: later →
        KeepsDevices t later ∧
          StartsAsRegistered configuration applicationId (registeredBy seeds earlier) t ∧
          EnrolledForGood t later ∧ AddsAccepted applicationId t := by
  have hy := Program.yields_run setup (DeviceMethod.configure policy attributes) w₀
  rw [hc] at hy
  obtain ⟨applicationId, hpresent, ha⟩ := applicationId_of_configure hy
  refine ⟨applicationId, hpresent, fun earlier t later he => ?_⟩
  have hplay := played_play (Deed.act configuration) others deeds ⟨sessions, .ofSeeds seeds⟩ w
  rw [he] at hplay
  obtain ⟨hbefore, hyt, -⟩ := hplay.split rfl
  exact ⟨keepsDevices_of_played hplay,
    startsAsRegistered_of_yields ha hyt (registrations_of_played hbefore),
    enrolledForGood_of_played ha hplay, addsAccepted_of_yields ha hyt⟩

/-- Alice enrols a device in one session; in another one she is not asked to. -/
theorem enrollment_lasts_in_other_sessions :
    let alice : Directory.Seed := ⟨"alice", "user", "inum", passwordDigest "secret", []⟩
    let password := .submit (.credentials ⟨"alice", "secret"⟩ .empty)
    let deeds := [.login 0 password, .login 0 (.submit (.token enrollment)), .login 1 password]
    ∃ challenged enrolled again,
      play (Deed.act obligingConfiguration) obliging deeds
        ⟨fun _ => Session.start "session" ⟨0⟩, .ofSeeds [alice]⟩ () = [challenged, enrolled, again] ∧
      challenged.exchanges.any startsEnrollment = true ∧
      enrolled.exchanges.any acceptsDevice = true ∧
      again.exchanges.any startsEnrollment = false := by
  intro alice password deeds
  let turns := play (Deed.act obligingConfiguration) obliging deeds
    ⟨fun _ => Session.start "session" ⟨0⟩, .ofSeeds [alice]⟩ ()
  obtain ⟨applicationId, -, h⟩ := enrolled_users_stay_enrolled configure_obliging obliging [alice]
    (fun _ => Session.start "session" ⟨0⟩) deeds ()
  obtain ⟨challenged, enrolled, again, hturns, hstarts, hcommand, huser, hknown, haccepts, hlogin,
      hagain⟩ : ∃ challenged enrolled again, turns = [challenged, enrolled, again] ∧
      challenged.exchanges.any startsEnrollment = true ∧
      enrolled.command = .login 0 (.submit (.token enrollment)) ∧
      (enrolled.before.sessions 0).user = some alice.user ∧
      enrolled.before.directory.knowsInum alice.user.inum = true ∧
      enrolled.exchanges.any acceptsDevice = true ∧ again.command = .login 1 password ∧
      (again.after.sessions 1).user = some alice.user :=
    ⟨turns[0], turns[1], turns[2], rfl, by decide +kernel, rfl, by decide +kernel,
      by decide +kernel, by decide +kernel, rfl, by decide +kernel⟩
  refine ⟨challenged, enrolled, again, hturns, hstarts, haccepts, ?_⟩
  obtain ⟨-, -, hgood, -⟩ := h [challenged] enrolled [again] hturns
  rw [Bool.eq_false_iff]
  intro hs
  obtain ⟨place, step, other, hc, hother, hne⟩ :=
    hgood 0 _ alice.user hcommand huser hknown haccepts again List.mem_cons_self hs
  cases hlogin.symm.trans hc
  exact hne (congrArg User.inum (Option.some.inj (hother.symm.trans hagain)))

end TwoStepLogin.Login
