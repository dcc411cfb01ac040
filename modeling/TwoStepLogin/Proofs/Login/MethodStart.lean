import TwoStepLogin.Proofs.Login.ChallengeUse
import TwoStepLogin.Proofs.Login.DeviceFlow
import TwoStepLogin.Proofs.Text.Blanks

/-!
# The start of the device method

The device method starts with two attributes of the host: the address of the FIDO server and the
application. What stands between the blanks at their ends counts, from the start on and in everything
that is asked later; blank attributes are as good as none.

* `Attributes.Lacks`, `Attributes.Gives` — what an attribute says;
* `Login.run_configure` — a start with both attributes is a search for the server's configuration;
* `Login.Configuration.Keeps` — what a configuration holds of the attributes;
* `Login.application?` — the application that somebody is asked about;
* `Login.method_starts_from_trimmed_attributes` — all together.
-/

set_option autoImplicit false

namespace TwoStepLogin

namespace Attributes

/-! ## What attributes say -/

/-- The attribute is absent or consists of blanks. -/
def Lacks (a : Attributes) (key : String) : Prop :=
  ∀ text, a.get? key = some text → ∀ c ∈ text.toList, Text.isBlank c = true

/-- The attribute says this, between blanks at its ends. -/
def Gives (a : Attributes) (key value : String) : Prop :=
  value ≠ "" ∧ ∃ text, a.get? key = some text ∧ Text.Trimmed text.toList value.toList

variable {a : Attributes} {key value : String}

theorem trim_eq_empty_iff {text : String} :
    Text.trim text = "" ↔ ∀ c ∈ text.toList, Text.isBlank c = true := by
  rw [Text.trim, String.ofList_eq_empty_iff]
  exact Text.trimChars_eq_nil_iff

theorem trim_eq_iff {text : String} :
    Text.trim text = value ↔ Text.Trimmed text.toList value.toList := by
  rw [← Text.trimChars_eq_iff, Text.trim, ← String.toList_inj, String.toList_ofList]

theorem present?_eq_none_iff : a.present? key = none ↔ a.Lacks key := by
  unfold present? Lacks
  cases a.get? key with
  | none => exact iff_of_true rfl fun _ h => nomatch h
  | some text =>
    have hleft : (if (Text.trim text).isEmpty then none else some (Text.trim text)) = none ↔
        Text.trim text = "" := by
      rw [ite_eq_left_iff, String.isEmpty_iff]
      simp only [reduceCtorEq, imp_false, Classical.not_not]
    simp only [Option.bind_some]
    rw [hleft, trim_eq_empty_iff]
    simp only [Option.some.injEq, forall_eq']

theorem present?_eq_some_iff : a.present? key = some value ↔ a.Gives key value := by
  unfold present? Gives
  cases a.get? key with
  | none => simp
  | some text =>
    simp only [Option.bind_some, Option.some.injEq, exists_eq_left', ← trim_eq_iff]
    constructor
    · intro h
      split at h
      · cases h
      · rename_i hne
        cases h
        exact ⟨fun he => hne (String.isEmpty_iff.2 he), rfl⟩
    · rintro ⟨hne, rfl⟩
      exact if_neg fun he => hne (String.isEmpty_iff.1 he)

/-- What is present is said in its own right. -/
theorem present?_of_get? (h : a.get? key = some value) (hne : value ≠ "")
    (htrim : Text.trim value = value) : a.present? key = some value := by
  rw [present?_eq_some_iff]
  exact ⟨hne, value, h, trim_eq_iff.1 htrim⟩

theorem trim_of_present? (h : a.present? key = some value) : Text.trim value = value := by
  obtain ⟨-, text, -, htrimmed⟩ := present?_eq_some_iff.1 h
  rw [← trim_eq_iff.2 htrimmed, Text.trim_trim]

/-- Writing what is there already changes nothing. -/
theorem set_eq_self (h : a.get? key = some value) : a.set key value = a := by
  obtain ⟨entries⟩ := a
  have hput : put key value entries = entries := by
    replace h : entries.lookup key = some value := h
    induction entries with
    | nil => cases h
    | cons e entries ih =>
      obtain ⟨other, old⟩ := e
      unfold put
      split
      · rename_i he
        subst he
        rw [List.lookup_cons_self] at h
        cases h
        rfl
      · rename_i hne
        rw [List.lookup_cons, beq_eq_false_iff_ne.2 (Ne.symm hne)] at h
        rw [ih h]
  rw [set, hput]

end Attributes

namespace Login

open DeviceMethod (configure serverUriKey applicationIdKey)

variable {policy : Fido.RetryPolicy} {attributes : Attributes} {serverUri applicationId : String}
  {σ : Type}

theorem applicationIdKey_ne : applicationIdKey ≠ serverUriKey := by decide

/-! ## A start -/

/-- The configuration of a start with these attributes that found the server's. -/
def settled (attributes : Attributes) (serverUri applicationId : String) (metadata : Fido.Metadata) :
    Configuration :=
  ⟨(attributes.set serverUriKey serverUri).set applicationIdKey applicationId, metadata⟩

/-- What is noted at the end of a start. -/
def startedNotes : Except Fido.Discovery.Failure Fido.Metadata → List (Event surroundings)
  | .ok _ => [.noted (.info "U2F. Initialized successfully")]
  | .error _ => []

/-- Without the address of a server nobody is asked. -/
theorem run_configure_of_noServer (h : attributes.present? serverUriKey = none)
    (others : Responder surroundings σ) (w : σ) :
    (configure policy attributes).run others w =
      ⟨.error (.missingAttribute serverUriKey), w, [.noted (.info "U2F. Initialization")]⟩ := by
  simp [configure, h, Outcome.after]

/-- Nor is anybody without an application. -/
theorem run_configure_of_noApplication (hs : attributes.present? serverUriKey = some serverUri)
    (h : attributes.present? applicationIdKey = none) (others : Responder surroundings σ) (w : σ) :
    (configure policy attributes).run others w =
      ⟨.error (.missingAttribute applicationIdKey), w, [.noted (.info "U2F. Initialization")]⟩ := by
  simp [configure, hs, h, Outcome.after]

/-- A start with both attributes is a search for the server's configuration. -/
theorem run_configure (hs : attributes.present? serverUriKey = some serverUri)
    (ha : attributes.present? applicationIdKey = some applicationId)
    (others : Responder surroundings σ) (w : σ) :
    (configure policy attributes).run others w =
      let found := (Fido.discover policy serverUri).run others w
      ⟨found.value.map (settled attributes serverUri applicationId), found.state,
        .noted (.info "U2F. Initialization") :: found.events ++ startedNotes found.value⟩ := by
  simp only [configure, hs, ha, Program.log_bind, Program.run_note, Program.run_bind]
  cases ((Fido.discover policy serverUri).run others w).value with
  | error failure => simp [Outcome.after, startedNotes, Except.map]
  | ok metadata => simp [Outcome.after, startedNotes, Except.map, settled]

/-- A configuration has the two attributes without blanks, and all others as they were. -/
theorem get?_settled (attributes : Attributes) (serverUri applicationId : String)
    (metadata : Fido.Metadata) (key : String) :
    (settled attributes serverUri applicationId metadata).attributes.get? key =
      if key = applicationIdKey then some applicationId
      else if key = serverUriKey then some serverUri else attributes.get? key := by
  rw [settled, Attributes.get?_set, Attributes.get?_set]

/-- Nobody is asked but by the search. -/
theorem exchanges_of_start (found : Outcome surroundings σ (Except Fido.Discovery.Failure Fido.Metadata)) :
    (.noted (.info "U2F. Initialization") :: found.events ++ startedNotes found.value).filterMap
      Event.exchange? = found.exchanges := by
  have hnotes : (startedNotes found.value).filterMap Event.exchange? = [] := by
    cases found.value with
    | error failure => rfl
    | ok metadata => rfl
  rw [List.filterMap_append, hnotes, List.append_nil]
  rfl

/-! ## A second start -/

/-- What a start leaves of the attributes is as good as the attributes. -/
theorem run_configure_settled (hs : attributes.present? serverUriKey = some serverUri)
    (ha : attributes.present? applicationIdKey = some applicationId) (metadata : Fido.Metadata)
    (others : Responder surroundings σ) (w : σ) :
    (configure policy (settled attributes serverUri applicationId metadata).attributes).run others w =
      (configure policy attributes).run others w := by
  have hserver : (settled attributes serverUri applicationId metadata).attributes.get? serverUriKey =
      some serverUri := by
    rw [get?_settled, if_neg (Ne.symm applicationIdKey_ne), if_pos rfl]
  have happlication :
      (settled attributes serverUri applicationId metadata).attributes.get? applicationIdKey =
        some applicationId := by
    rw [get?_settled, if_pos rfl]
  have hs' := Attributes.present?_of_get? hserver (Attributes.present?_eq_some_iff.1 hs).1
    (Attributes.trim_of_present? hs)
  have ha' := Attributes.present?_of_get? happlication (Attributes.present?_eq_some_iff.1 ha).1
    (Attributes.trim_of_present? ha)
  have hsettled : settled (settled attributes serverUri applicationId metadata).attributes serverUri
      applicationId = settled attributes serverUri applicationId := by
    funext found
    rw [settled, Attributes.set_eq_self hserver, Attributes.set_eq_self happlication]
    rfl
  rw [run_configure hs' ha', run_configure hs ha, hsettled]

/-! ## What is asked later -/

/-- The application that somebody is asked about: which devices there are, to start a workflow, or to
record a device. -/
def application? : Question → Option String
  | .directory (.findDevices _ applicationId) => some applicationId
  | .directory (.record registration) => some registration.applicationId
  | .fido (.startRegistration _ _ applicationId _) => some applicationId
  | .fido (.startAuthentication _ _ _ applicationId _) => some applicationId
  | _ => none

/-- Nobody is asked about another application than the configured one. -/
def AsksConfigured (configuration : Configuration) (h : List (Exchange surroundings)) : Prop :=
  ∀ e ∈ h, ∀ applicationId, application? e.question = some applicationId →
    configuration.attributes.get? applicationIdKey = some applicationId

variable {configuration : Configuration} {c : Credentials} {p : Parameters} {s s' : Session}
  {h h' : List (Exchange surroundings)} {ok : Bool} {outcome : StepOutcome}

theorem asksConfigured_nil : AsksConfigured configuration [] := fun _ he => nomatch he

theorem AsksConfigured.append (hh : AsksConfigured configuration h)
    (hh' : AsksConfigured configuration h') : AsksConfigured configuration (h ++ h') := by
  intro e he
  rcases List.mem_append.1 he with he | he
  · exact hh e he
  · exact hh' e he

theorem asksConfigured_of_none {e : Exchange surroundings} (he : application? e.question = none) :
    AsksConfigured configuration [e] := by
  intro e' he' applicationId hasked
  rw [List.mem_singleton.1 he', he] at hasked
  cases hasked

theorem asksConfigured_of_some {e : Exchange surroundings}
    (ha : configuration.attributes.get? applicationIdKey = some applicationId)
    (he : application? e.question = some applicationId) : AsksConfigured configuration [e] := by
  intro e' he' asked hasked
  rw [List.mem_singleton.1 he', he] at hasked
  rw [ha, hasked]

theorem application?_started (configuration : Configuration) (workflow : Workflow) (user : User)
    (applicationId sessionId : String) (answer : Except Fido.Fault Json) :
    application? (started configuration workflow user applicationId sessionId answer).question =
      some applicationId := by
  cases workflow with
  | enroll => rfl
  | authenticate => rfl

theorem application?_finished (configuration : Configuration) (workflow : Workflow) (user : User)
    (token : String) (answer : Except Fido.Fault Fido.Status) :
    application? (finished configuration workflow user token answer).question = none := by
  cases workflow with
  | enroll => rfl
  | authenticate => rfl

theorem PasswordChecked.asksConfigured (hc : PasswordChecked c s h ok s') :
    AsksConfigured configuration h := by
  have hnone (accepted : Bool) (found : Except Directory.Fault (Option User)) :
      AsksConfigured configuration [told (.authenticate c.userName c.password) accepted,
        told (.findUser c.userName) found] :=
    (asksConfigured_of_none rfl).append (asksConfigured_of_none rfl)
  cases hc with
  | blank _ => exact asksConfigured_nil
  | rejected => exact asksConfigured_of_none rfl
  | lost _ => exact hnone _ _
  | occupied _ _ => exact hnone _ _
  | bound _ _ _ => exact hnone _ _

theorem DevicePrepared.asksConfigured (hp : DevicePrepared configuration s h ok s') :
    AsksConfigured configuration h := by
  cases hp with
  | unready _ => exact asksConfigured_nil
  | unknown _ _ ha => exact asksConfigured_of_some ha rfl
  | issued _ _ ha =>
    exact (asksConfigured_of_some ha rfl).append
      (asksConfigured_of_some ha (application?_started _ _ _ _ _ _))
  | noDevice _ _ ha _ =>
    exact (asksConfigured_of_some ha rfl).append
      (asksConfigured_of_some ha (application?_started _ _ _ _ _ _))
  | faulty _ _ ha _ =>
    exact (asksConfigured_of_some ha rfl).append
      (asksConfigured_of_some ha (application?_started _ _ _ _ _ _))

theorem DeviceChecked.asksConfigured (hd : DeviceChecked configuration p s h ok s') :
    AsksConfigured configuration h := by
  cases hd with
  | unfit _ => exact asksConfigured_nil
  | judged _ hrecorded =>
    refine (asksConfigured_of_none (application?_finished _ _ _ _ _)).append ?_
    cases hrecorded with
    | nothing _ => exact asksConfigured_nil
    | device _ _ ha => exact asksConfigured_of_some ha rfl

/-- One call of the method. -/
theorem asksConfigured_of_use {use : MethodUse} (hy : (use.act configuration s).Yields h (ok, s')) :
    AsksConfigured configuration h := by
  cases use with
  | prepare step p =>
    obtain ⟨-, hp⟩ | ⟨-, rfl, -⟩ := prepare_yields hy
    · exact hp.asksConfigured
    · exact asksConfigured_nil
  | authenticate step c p =>
    obtain ⟨-, hc⟩ | ⟨-, hd⟩ | ⟨-, -, rfl, -⟩ := authenticate_yields hy
    · exact hc.asksConfigured
    · exact hd.asksConfigured
    · exact asksConfigured_nil
  | change host =>
    obtain ⟨rfl, -⟩ := hy
    exact asksConfigured_nil

/-- One submission to its flow. -/
theorem asksConfigured_of_submit {submission : Submission}
    (hy : ((deviceFlow configuration).submit submission s).Yields h (outcome, s')) :
    AsksConfigured configuration h := by
  cases submission with
  | credentials c p =>
    cases passwordTurn_of_yields hy with
    | outOfOrder _ => exact asksConfigured_nil
    | rejected _ hc => exact hc.asksConfigured
    | unprepared _ hc hp => exact hc.asksConfigured.append hp.asksConfigured
    | prepared _ hc hp => exact hc.asksConfigured.append hp.asksConfigured
  | token p =>
    cases deviceTurn_of_yields hy with
    | outOfOrder _ => exact asksConfigured_nil
    | rejected _ hd => exact hd.asksConfigured
    | accepted _ hd => exact hd.asksConfigured

/-- What holds of the exchanges of every command holds of those of a conversation. -/
theorem asksConfigured_of_played {C B : Type} {act : C → Session → Action (B × Session)}
    {turns : List (Turn surroundings C Session B)}
    (hact : ∀ command s h reply s', (act command s).Yields h (reply, s') → AsksConfigured configuration h)
    (hplayed : Played act s turns s') : AsksConfigured configuration (exchangesOf turns) := by
  intro e he
  obtain ⟨t, ht, het⟩ := List.mem_flatMap.1 he
  obtain ⟨-, -, -, -, hy⟩ := hplayed.of_mem ht
  exact hact _ _ _ _ _ hy e het

/-- However the method and its flow are used with the configuration, on whatever session and whoever
answers, all that is asked about applications is asked about this one. -/
def AsksAbout (configuration : Configuration) (applicationId : String) : Prop :=
  ∀ (σ : Type) (others : Responder surroundings σ) (w : σ) (s : Session),
    (∀ uses, ∀ e ∈ exchangesOf (play (MethodUse.act configuration) others uses s w), ∀ asked,
      application? e.question = some asked → asked = applicationId) ∧
    ∀ submissions, ∀ e ∈ exchangesOf (play (deviceFlow configuration).submit others submissions s w),
      ∀ asked, application? e.question = some asked → asked = applicationId

theorem asksAbout_of_get? (ha : configuration.attributes.get? applicationIdKey = some applicationId) :
    AsksAbout configuration applicationId := by
  intro σ others w s
  have hconfigured {h : List (Exchange surroundings)} (hh : AsksConfigured configuration h) :
      ∀ e ∈ h, ∀ asked, application? e.question = some asked → asked = applicationId := by
    intro e he asked hasked
    have hget := hh e he asked hasked
    rw [ha] at hget
    exact (Option.some.inj hget).symm
  refine ⟨fun uses => hconfigured ?_, fun submissions => hconfigured ?_⟩
  · exact asksConfigured_of_played (fun _ _ _ _ _ => asksConfigured_of_use) (played_play _ _ _ _ _)
  · exact asksConfigured_of_played (fun _ _ _ _ _ => asksConfigured_of_submit) (played_play _ _ _ _ _)

/-- A start fails for want of the address of a server or, if there is one, for want of an application,
and then nobody is asked. With both it asks and answers what a search for the server's configuration
does, at the address without blanks. What it finds is kept together with both attributes without
blanks and all other attributes; a start with these attributes is no different, and later on only this
application is asked about. -/
theorem method_starts_from_trimmed_attributes (policy : Fido.RetryPolicy) (attributes : Attributes)
    (others : Responder surroundings σ) (w : σ) :
    let o := (configure policy attributes).run others w
    (attributes.Lacks serverUriKey →
      o.value = .error (.missingAttribute serverUriKey) ∧ o.questions = []) ∧
    (¬attributes.Lacks serverUriKey → attributes.Lacks applicationIdKey →
      o.value = .error (.missingAttribute applicationIdKey) ∧ o.questions = []) ∧
    (¬attributes.Lacks serverUriKey → ¬attributes.Lacks applicationIdKey →
      ∃ serverUri applicationId, attributes.Gives serverUriKey serverUri ∧
        attributes.Gives applicationIdKey applicationId ∧
        let found := (Fido.discover policy serverUri).run others w
        o.exchanges = found.exchanges ∧ o.state = found.state ∧
        (∀ failure, found.value = .error failure → o.value = .error failure) ∧
        ∀ metadata, found.value = .ok metadata → ∃ configuration, o.value = .ok configuration ∧
          configuration.metadata = metadata ∧
          configuration.attributes.get? serverUriKey = some serverUri ∧
          configuration.attributes.get? applicationIdKey = some applicationId ∧
          (∀ key, key ≠ serverUriKey → key ≠ applicationIdKey →
            configuration.attributes.get? key = attributes.get? key) ∧
          (configure policy configuration.attributes).run others w = o ∧
          AsksAbout configuration applicationId) := by
  intro o
  have present_of_not_lacks {key : String} (h : ¬attributes.Lacks key) :
      ∃ value, attributes.present? key = some value := by
    rw [← Attributes.present?_eq_none_iff] at h
    exact Option.ne_none_iff_exists'.1 h
  refine ⟨fun hlacks => ?_, fun hserver hlacks => ?_, fun hserver happlication => ?_⟩
  · have ho : o = _ := run_configure_of_noServer (Attributes.present?_eq_none_iff.2 hlacks) others w
    rw [ho]
    exact ⟨rfl, rfl⟩
  · obtain ⟨serverUri, hs⟩ := present_of_not_lacks hserver
    have ho : o = _ :=
      run_configure_of_noApplication hs (Attributes.present?_eq_none_iff.2 hlacks) others w
    rw [ho]
    exact ⟨rfl, rfl⟩
  · obtain ⟨serverUri, hs⟩ := present_of_not_lacks hserver
    obtain ⟨applicationId, ha⟩ := present_of_not_lacks happlication
    refine ⟨serverUri, applicationId, Attributes.present?_eq_some_iff.1 hs,
      Attributes.present?_eq_some_iff.1 ha, ?_⟩
    intro found
    have ho : o = _ := run_configure hs ha others w
    have hvalue : o.value = found.value.map (settled attributes serverUri applicationId) := by rw [ho]
    have hexchanges : o.exchanges = found.exchanges := by
      rw [ho]
      exact exchanges_of_start found
    refine ⟨hexchanges, by rw [ho], fun failure hfailure => ?_, fun metadata hmetadata => ?_⟩
    · rw [hvalue, hfailure]
      rfl
    · have hget := get?_settled attributes serverUri applicationId metadata
      have happ : (settled attributes serverUri applicationId metadata).attributes.get?
          applicationIdKey = some applicationId := by
        rw [hget, if_pos rfl]
      refine ⟨settled attributes serverUri applicationId metadata, ?_, rfl, ?_, happ,
        fun key hkey hkey' => ?_, run_configure_settled hs ha metadata others w,
        asksAbout_of_get? happ⟩
      · rw [hvalue, hmetadata]
        rfl
      · rw [hget, if_neg (Ne.symm applicationIdKey_ne), if_pos rfl]
      · rw [hget, if_neg hkey', if_neg hkey]

/-- Attributes with blanks of different kinds around them. -/
def blankedAttributes : Attributes :=
  .ofPairs [(serverUriKey, "\u00a0https://fido.example/ "), ("theme", " dark "),
    (applicationIdKey, "\thttps://app.example\u3000")]

/-- The blanks do not count, and the theme is none of the method's business. Of blanks alone no method
starts. -/
theorem blanked_start_is_as_good :
    (∃ configuration, ((configure ⟨1, 0⟩ blankedAttributes).run obliging ()).value = .ok configuration ∧
      configuration.attributes.get? "theme" = some " dark " ∧
      configuration.attributes.get? applicationIdKey = some "https://app.example" ∧
      ((configure ⟨1, 0⟩ configuration.attributes).run obliging ()).value = .ok configuration ∧
      AsksAbout configuration "https://app.example") ∧
    ((configure ⟨1, 0⟩ (blankedAttributes.set applicationIdKey "\u2003")).run obliging ()).value =
      .error (.missingAttribute applicationIdKey) := by
  have hserver : ¬blankedAttributes.Lacks serverUriKey := by
    rw [← Attributes.present?_eq_none_iff]
    decide +kernel
  have happlication : ¬blankedAttributes.Lacks applicationIdKey := by
    rw [← Attributes.present?_eq_none_iff]
    decide +kernel
  constructor
  · obtain ⟨serverUri, applicationId, hs, ha, -, -, -, hfound⟩ :=
      (method_starts_from_trimmed_attributes ⟨1, 0⟩ blankedAttributes obliging ()).2.2 hserver
        happlication
    have hserverUri : blankedAttributes.present? serverUriKey = some "https://fido.example/" := by
      decide +kernel
    have happlicationId : blankedAttributes.present? applicationIdKey = some "https://app.example" := by
      decide +kernel
    rw [← Attributes.present?_eq_some_iff, hserverUri] at hs
    rw [← Attributes.present?_eq_some_iff, happlicationId] at ha
    cases hs
    cases ha
    obtain ⟨configuration, hok, -, -, hkept, hothers, hagain, hasks⟩ := hfound _ rfl
    refine ⟨configuration, hok, ?_, hkept, ?_, hasks⟩
    · rw [hothers "theme" (by decide) (by decide)]
      decide +kernel
    · rw [hagain]
      exact hok
  · have hserver' : ¬(blankedAttributes.set applicationIdKey "\u2003").Lacks serverUriKey := by
      rw [← Attributes.present?_eq_none_iff]
      decide +kernel
    have hblank : (blankedAttributes.set applicationIdKey "\u2003").Lacks applicationIdKey := by
      rw [← Attributes.present?_eq_none_iff]
      decide +kernel
    exact ((method_starts_from_trimmed_attributes ⟨1, 0⟩ _ obliging ()).2.1 hserver' hblank).1

end Login

end TwoStepLogin
