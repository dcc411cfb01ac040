import TwoStepLogin.Proofs.Login.Footprint

/-!
# Preparing the device step

The preparation of the device step ends in one of many places. Where it ends is settled by the
session, the configuration, what the directory says about devices and what the server says to the
start of a workflow; whatever else the session remembers, from this login or an older one, has no say
in it and is not touched.

* `Login.Ready` — everything is at hand to call the server;
* `Login.Opens` — the answers of the server with which the step is prepared;
* `Login.OpenedBy`, `Login.PreparedBy` — the ends of the preparation, in terms of what directory and
  server say;
* `Login.device_step_is_prepared_exactly` — verdict, calls and session.
-/

set_option autoImplicit false

namespace TwoStepLogin.Login

variable {σ : Type}

/-- All that must be at hand before the server is called: the session has an identifier and a user, an
application is configured, and the directory names the user's devices for it. -/
structure Ready (configuration : Configuration) (s : Session) (world : Responder surroundings σ)
    (w : σ) (user : User) (applicationId : String) (devices : List DeviceRegistration) : Prop where
  id_ne : s.id ≠ ""
  user_eq : s.user = some user
  application_eq :
    configuration.attributes.get? DeviceMethod.applicationIdKey = some applicationId
  devices_eq : (world.respond (.directory (.findDevices user.inum applicationId)) w).1 =
    (Except.ok devices : Except Directory.Fault (List DeviceRegistration))

/-- What the server says to the start of the workflow that fits these devices, once the directory has
been asked for them. -/
def openingAnswer (configuration : Configuration) (s : Session) (world : Responder surroundings σ)
    (w : σ) (user : User) (applicationId : String) (devices : List DeviceRegistration) :
    Except Fido.Fault Json :=
  startAnswer world (world.respond (.directory (.findDevices user.inum applicationId)) w).2
    configuration (workflowFor devices) user applicationId s.id

/-- The answers with which the step is prepared: a challenge, or, for a user with devices, the status
by which the server says that it knows none of them. -/
inductive Opens (devices : List DeviceRegistration) : Except Fido.Fault Json → Prop where
  | challenge (challenge : Json) : Opens devices (.ok challenge)
  | notFound (message : String) : devices ≠ [] → Opens devices (.error (.status 404 message))

variable {configuration : Configuration} {s s' : Session} {world : Responder surroundings σ}
  {w w' : σ} {user user₁ : User} {applicationId applicationId₁ : String}
  {devices devices₁ : List DeviceRegistration} {h : List (Exchange surroundings)} {ok : Bool}

/-- There is at most one way to be ready. -/
theorem Ready.unique (hready : Ready configuration s world w user applicationId devices)
    (hready₁ : Ready configuration s world w user₁ applicationId₁ devices₁) :
    user = user₁ ∧ applicationId = applicationId₁ ∧ devices = devices₁ := by
  obtain rfl := Option.some.inj (hready.user_eq.symm.trans hready₁.user_eq)
  obtain rfl := Option.some.inj (hready.application_eq.symm.trans hready₁.application_eq)
  exact ⟨rfl, rfl, Except.ok.inj (hready.devices_eq.symm.trans hready₁.devices_eq)⟩

theorem workflowFor_eq_authenticate_iff : workflowFor devices = .authenticate ↔ devices ≠ [] := by
  cases devices <;> simp [workflowFor]

/-- The ends of the preparation once the server has answered. -/
inductive OpenedBy (s : Session) (devices : List DeviceRegistration) :
    Except Fido.Fault Json → Bool → Session → Prop where
  | issued (challenge : Json) :
      OpenedBy s devices (.ok challenge) true (s.storeChallenge (workflowFor devices) challenge)
  | notFound (message : String) : devices ≠ [] →
      OpenedBy s devices (.error (.status 404 message)) true s.clearPending
  | faulty {fault : Fido.Fault} : (devices ≠ [] → fault.isNotFound = false) →
      OpenedBy s devices (.error fault) false s

namespace OpenedBy

variable {answer : Except Fido.Fault Json}

theorem ok_iff (ho : OpenedBy s devices answer ok s') : ok = true ↔ Opens devices answer := by
  cases ho with
  | issued challenge => exact iff_of_true rfl (.challenge challenge)
  | notFound message hne => exact iff_of_true rfl (.notFound message hne)
  | faulty hf =>
    refine iff_of_false Bool.false_ne_true fun hopens => ?_
    cases hopens with
    | notFound message hne => cases hf hne

/-- A challenge is stored for the workflow that was started. -/
theorem stores {challenge : Json} (ho : OpenedBy s devices (.ok challenge) ok s') :
    s'.Stores (workflowFor devices) challenge := by
  cases ho with
  | issued _ => exact s.stores_storeChallenge _ _

/-- If the server knows no device of a user who has one, nothing stays pending. -/
theorem clears {message : String} (hne : devices ≠ [])
    (ho : OpenedBy s devices (.error (.status 404 message)) ok s') : s.Cleared s' := by
  cases ho with
  | notFound _ _ => exact s.cleared_clearPending
  | faulty hf => cases hf hne

theorem eq_of_false (ho : OpenedBy s devices answer false s') : s' = s := by
  cases ho with
  | faulty _ => rfl

theorem sameBesides (ho : OpenedBy s devices answer ok s') : s.SameBesides s' := by
  cases ho with
  | issued _ => exact s.sameBesides_storeChallenge _ _
  | notFound _ _ => exact s.cleared_clearPending.same
  | faulty _ => exact .refl s

end OpenedBy

/-- The ends of the preparation, in terms of what directory and server say. -/
inductive PreparedBy (configuration : Configuration) (s : Session)
    (world : Responder surroundings σ) (w : σ) : List Fido.Call → Bool → Session → Prop where
  | unready : (∀ user applicationId devices,
      ¬Ready configuration s world w user applicationId devices) →
      PreparedBy configuration s world w [] false s
  | called {user : User} {applicationId : String} {devices : List DeviceRegistration} {ok : Bool}
      {s' : Session} : Ready configuration s world w user applicationId devices →
      OpenedBy s devices (openingAnswer configuration s world w user applicationId devices) ok s' →
      PreparedBy configuration s world w
        [startCall configuration (workflowFor devices) user applicationId s.id] ok s'

/-- A lookup and a call in a conversation got the answers that are given at their places. -/
theorem answers_of_replies {answer : Except Fido.Fault Json}
    (hr : world.Replies w [told (.findDevices user.inum applicationId) (.ok devices),
      started configuration (workflowFor devices) user applicationId s.id answer] w') :
    (world.respond (.directory (.findDevices user.inum applicationId)) w).1 =
        (Except.ok devices : Except Directory.Fault (List DeviceRegistration)) ∧
      openingAnswer configuration s world w user applicationId devices = answer :=
  ⟨hr.1.symm, (answer_of_started hr.2).symm⟩

/-- What was said in a conversation with the surroundings is what they say. -/
theorem DevicePrepared.preparedBy (hp : DevicePrepared configuration s h ok s')
    (hr : world.Replies w h w') : PreparedBy configuration s world w (callsOf h) ok s' := by
  cases hp with
  | unready hu =>
    refine .unready fun user applicationId devices hready => ?_
    rcases hu with hid | hnobody | hnone
    · exact hready.id_ne hid
    · cases hnobody.symm.trans hready.user_eq
    · cases hnone.symm.trans hready.application_eq
  | @unknown user applicationId fault hid hu ha =>
    -- The directory would have to answer the same lookup in two ways.
    refine .unready fun user₁ applicationId₁ devices hready => ?_
    obtain rfl := Option.some.inj (hu.symm.trans hready.user_eq)
    obtain rfl := Option.some.inj (ha.symm.trans hready.application_eq)
    cases hr.1.trans hready.devices_eq
  | @issued user applicationId devices challenge hid hu ha =>
    obtain ⟨hfound, hanswer⟩ := answers_of_replies hr
    rw [callsOf_started]
    refine .called ⟨hid, hu, ha, hfound⟩ ?_
    rw [hanswer]
    exact .issued challenge
  | @noDevice user applicationId devices message hid hu ha hw =>
    rw [← hw] at hr ⊢
    obtain ⟨hfound, hanswer⟩ := answers_of_replies hr
    rw [callsOf_started]
    refine .called ⟨hid, hu, ha, hfound⟩ ?_
    rw [hanswer]
    exact .notFound message (workflowFor_eq_authenticate_iff.1 hw)
  | @faulty user applicationId devices fault hid hu ha hf =>
    obtain ⟨hfound, hanswer⟩ := answers_of_replies hr
    rw [callsOf_started]
    refine .called ⟨hid, hu, ha, hfound⟩ ?_
    rw [hanswer]
    exact .faulty fun hne => hf (workflowFor_eq_authenticate_iff.2 hne)

namespace PreparedBy

variable {calls : List Fido.Call}

theorem of_unready (hp : PreparedBy configuration s world w calls ok s')
    (hn : ∀ user applicationId devices,
      ¬Ready configuration s world w user applicationId devices) : calls = [] := by
  cases hp with
  | unready _ => rfl
  | called hready _ => exact absurd hready (hn _ _ _)

theorem of_ready (hp : PreparedBy configuration s world w calls ok s')
    (hready : Ready configuration s world w user applicationId devices) :
    calls = [startCall configuration (workflowFor devices) user applicationId s.id] ∧
      OpenedBy s devices (openingAnswer configuration s world w user applicationId devices) ok s' := by
  cases hp with
  | unready hn => exact absurd hready (hn _ _ _)
  | called hready₁ ho =>
    obtain ⟨rfl, rfl, rfl⟩ := hready.unique hready₁
    exact ⟨rfl, ho⟩

/-- The step is prepared if the server is called and gives one of the right answers. -/
theorem ok_iff (hp : PreparedBy configuration s world w calls ok s') :
    ok = true ↔ ∃ user applicationId devices,
      Ready configuration s world w user applicationId devices ∧
        Opens devices (openingAnswer configuration s world w user applicationId devices) := by
  cases hp with
  | unready hn =>
    refine iff_of_false Bool.false_ne_true ?_
    rintro ⟨user, applicationId, devices, hready, -⟩
    exact hn user applicationId devices hready
  | called hready ho =>
    rw [ho.ok_iff]
    constructor
    · intro hopens
      exact ⟨_, _, _, hready, hopens⟩
    · rintro ⟨user₁, applicationId₁, devices₁, hready₁, hopens⟩
      obtain ⟨rfl, rfl, rfl⟩ := hready.unique hready₁
      exact hopens

theorem eq_of_false (hp : PreparedBy configuration s world w calls false s') : s' = s := by
  cases hp with
  | unready _ => rfl
  | called _ ho => exact ho.eq_of_false

theorem sameBesides (hp : PreparedBy configuration s world w calls ok s') : s.SameBesides s' := by
  cases hp with
  | unready _ => exact .refl s
  | called _ ho => exact ho.sameBesides

end PreparedBy

/-- Whatever the session holds, whatever is configured, and whatever directory and server say: the
device step is prepared exactly if everything is at hand and the server answers with a challenge or,
for a user with devices, knows none of them. The server is called once if everything is at hand and
not at all otherwise. A challenge replaces any older one, a server that knows no device leaves none,
a preparation that fails leaves the session as it is; and nothing but the keys of a started workflow
ever changes. -/
theorem device_step_is_prepared_exactly (configuration : Configuration) (p : Parameters)
    (s : Session) (world : Responder surroundings σ) (w : σ) :
    let o := (deviceMethod.prepare configuration p s deviceStep).run world w
    (o.value.1 = true ↔ ∃ user applicationId devices,
      Ready configuration s world w user applicationId devices ∧
        Opens devices (openingAnswer configuration s world w user applicationId devices)) ∧
    ((∀ user applicationId devices,
      ¬Ready configuration s world w user applicationId devices) → callsOf o.exchanges = []) ∧
    (∀ user applicationId devices, Ready configuration s world w user applicationId devices →
      callsOf o.exchanges =
          [startCall configuration (workflowFor devices) user applicationId s.id] ∧
        (∀ challenge, openingAnswer configuration s world w user applicationId devices =
          .ok challenge → o.value.2.Stores (workflowFor devices) challenge) ∧
        (∀ message, devices ≠ [] →
          openingAnswer configuration s world w user applicationId devices =
            .error (.status 404 message) → s.Cleared o.value.2)) ∧
    (o.value.1 = false → o.value.2 = s) ∧ s.SameBesides o.value.2 := by
  intro o
  have hprepared : DevicePrepared configuration s o.exchanges o.value.1 o.value.2 :=
    prepare_device_yields (Program.yields_run world _ w)
  have hp := hprepared.preparedBy (Program.replies_run world _ w)
  refine ⟨hp.ok_iff, hp.of_unready, fun user applicationId devices hready => ?_, fun hok => ?_,
    hp.sameBesides⟩
  · obtain ⟨hcalls, hopened⟩ := hp.of_ready hready
    refine ⟨hcalls, fun challenge hanswer => ?_, fun message hne hanswer => ?_⟩
    · rw [hanswer] at hopened
      exact hopened.stores
    · rw [hanswer] at hopened
      exact hopened.clears hne
  · rw [hok] at hp
    exact hp.eq_of_false

/-- A directory that names a device which the server does not know. -/
def forgetful : Responder surroundings Unit where
  respond
    | .directory (.findDevices userInum applicationId), w =>
      (Except.ok [⟨userInum, applicationId, none⟩], w)
    | .fido (.startAuthentication ..), w => (Except.error (.status 404 "unknown device"), w)
    | question, w => obliging.respond question w

/-- Alice after her password, with what an older login left behind. -/
def usedSession : Session :=
  ({ Session.start "session" ⟨0⟩ with user := some ⟨"alice", "user", "inum"⟩ }.storeChallenge
    .authenticate (.object [])).set "theme" "dark"

theorem ready_usedSession (world : Responder surroundings Unit) {devices : List DeviceRegistration}
    (hdevices : (world.respond (.directory (.findDevices "inum" "https://app.example")) ()).1 =
      (Except.ok devices : Except Directory.Fault (List DeviceRegistration))) :
    Ready obligingConfiguration usedSession world () ⟨"alice", "user", "inum"⟩ "https://app.example"
      devices :=
  ⟨by decide, rfl, rfl, hdevices⟩

/-- The old challenge is replaced by one for a new device, or forgotten with an unknown device; the
rest stays. Without an identifier nobody is called. -/
theorem used_session_is_prepared :
    let prepared (s : Session) (world : Responder surroundings Unit) :=
      (deviceMethod.prepare obligingConfiguration .empty s deviceStep).run world ()
    let metadata := obligingConfiguration.metadata
    let fresh := prepared usedSession obliging
    let unknown := prepared usedSession forgetful
    let nameless := { usedSession with id := "" }
    (fresh.value.1 = true ∧ fresh.value.2.Stores .enroll (.object []) ∧
      callsOf fresh.exchanges =
        [.startRegistration metadata "user" "https://app.example" "session"] ∧
      fresh.value.2.get? "theme" = some "dark") ∧
      (unknown.value.1 = true ∧ usedSession.Cleared unknown.value.2 ∧
        callsOf unknown.exchanges =
          [.startAuthentication metadata "user" none "https://app.example" "session"]) ∧
      (prepared nameless obliging).value = (false, nameless) ∧
      callsOf (prepared nameless obliging).exchanges = [] := by
  intro prepared metadata fresh unknown nameless
  obtain ⟨hprepared, -, hopened, -, hsame⟩ :=
    device_step_is_prepared_exactly obligingConfiguration .empty usedSession obliging ()
  obtain ⟨hprepared', -, hopened', -, -⟩ :=
    device_step_is_prepared_exactly obligingConfiguration .empty usedSession forgetful ()
  obtain ⟨-, hcalls, -, hkept, -⟩ :=
    device_step_is_prepared_exactly obligingConfiguration .empty nameless obliging ()
  obtain ⟨hcall, hstores, -⟩ := hopened _ _ _ (ready_usedSession obliging rfl)
  obtain ⟨hcall', -, hclears⟩ := hopened' _ _ _ (ready_usedSession forgetful rfl)
  have hfresh : fresh.value.1 = true :=
    hprepared.2 ⟨_, _, _, ready_usedSession obliging rfl, .challenge (.object [])⟩
  have hunknown : unknown.value.1 = true :=
    hprepared'.2 ⟨_, _, _, ready_usedSession forgetful rfl,
      .notFound "unknown device" (List.cons_ne_nil _ _)⟩
  have htheme : ¬Session.PendingKey "theme" := by
    rintro (hkey | ⟨workflow, hkey⟩)
    · exact absurd hkey (by decide)
    · cases workflow <;> exact absurd hkey (by decide)
  exact ⟨⟨hfresh, hstores _ rfl, hcall, hsame.get?_eq "theme" htheme⟩,
    ⟨hunknown, hclears "unknown device" (List.cons_ne_nil _ _) rfl, hcall'⟩,
    Prod.ext rfl (hkept rfl), hcalls fun _ _ _ hready => hready.id_ne rfl⟩

end TwoStepLogin.Login
