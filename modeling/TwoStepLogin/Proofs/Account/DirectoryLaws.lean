import TwoStepLogin.Account.Directory
import TwoStepLogin.Proofs.Effect.Yields

/-!
# What a directory remembers

A directory in memory never forgets a registration: whatever it is asked, registrations are only
added at the end, and only by a request to add one.

* `Directory.ofSeeds_registrations` — it begins with the devices of its seeds;
* `Directory.devices_eq_nil_iff` — a lookup is empty if nothing was registered for it;
* `Directory.Inquiry` — a query with the answer that it got;
* `Directory.Answers` — a directory answers inquiries in turn;
* `Directory.Answers.entries_eq` — its users stay the same;
* `Directory.Answers.registrations_eq` — what it remembers afterwards.
-/

set_option autoImplicit false

namespace TwoStepLogin.Directory

/-! ## Registrations -/

theorem registrations_foldl_addSeed (seeds : List Seed) (d : Directory) :
    (seeds.foldl addSeed d).registrations = d.registrations ++ seeds.flatMap Seed.registrations := by
  induction seeds generalizing d with
  | nil => exact (List.append_nil _).symm
  | cons seed rest ih =>
    rw [List.foldl_cons, ih, List.flatMap_cons, ← List.append_assoc]
    rfl

/-- A directory begins with the devices of its seeds. -/
theorem ofSeeds_registrations (seeds : List Seed) :
    (ofSeeds seeds).registrations = seeds.flatMap Seed.registrations :=
  registrations_foldl_addSeed seeds empty

/-- The registration is one of this user for this application. -/
def IsFor (inum applicationId : String) (registration : DeviceRegistration) : Prop :=
  registration.userInum = inum ∧ registration.applicationId = applicationId

theorem devices_eq_nil_iff {d : Directory} {inum applicationId : String} :
    d.devices inum applicationId = [] ↔ ∀ r ∈ d.registrations, ¬IsFor inum applicationId r := by
  simp only [devices, List.filter_eq_nil_iff, Bool.and_eq_true, beq_iff_eq, IsFor]

/-- Devices do not get lost where registrations are only added. -/
theorem devices_ne_nil_of_prefix {d d' : Directory} {inum applicationId : String}
    (hd : d.registrations <+: d'.registrations) (hne : d.devices inum applicationId ≠ []) :
    d'.devices inum applicationId ≠ [] :=
  (hd.filter _).ne_nil hne

/-! ## Inquiries -/

/-- The queries of a directory as an interface. -/
abbrev inquiries : Interface := ⟨Query, Query.Answer⟩

/-- A query with the answer that it got. -/
abbrev Inquiry := Exchange inquiries

/-- The registration that the directory is asked to add. -/
def requested? : Inquiry → Option DeviceRegistration
  | ⟨.record registration, _⟩ => some registration
  | _ => none

/-- The registration that the directory agrees to add. -/
def added? : Inquiry → Option DeviceRegistration
  | ⟨.record registration, answer⟩ =>
    match (answer : Except Fault Unit) with
    | .ok _ => some registration
    | .error _ => none
  | _ => none

/-- A directory gives these answers, one after the other, and becomes another one by them. -/
def Answers : Directory → List Inquiry → Directory → Prop
  | d, [], d' => d' = d
  | d, ⟨query, answer⟩ :: rest, d' =>
    answer = (d.respond query).1 ∧ Answers (d.respond query).2 rest d'

variable {d d' : Directory} {asked more : List Inquiry}

theorem answers_append :
    Answers d (asked ++ more) d' ↔ ∃ d₁, Answers d asked d₁ ∧ Answers d₁ more d' := by
  induction asked generalizing d with
  | nil =>
    constructor
    · exact fun h => ⟨d, rfl, h⟩
    · rintro ⟨_, rfl, h⟩
      exact h
  | cons e rest ih => simp only [List.cons_append, Answers, ih, and_assoc, exists_and_left]

/-- Only a request to add a registration changes anything. -/
theorem respond_eq_self {query : Query} {answer : query.Answer}
    (hq : requested? ⟨query, answer⟩ = none) : (d.respond query).2 = d := by
  cases query with
  | record registration => cases hq
  | authenticate _ _ => rfl
  | findUser _ => rfl
  | findDevices _ _ => rfl

theorem Answers.eq_self (h : Answers d asked d') (hq : ∀ e ∈ asked, requested? e = none) :
    d' = d := by
  induction asked generalizing d with
  | nil => exact h
  | cons e rest ih =>
    obtain ⟨he, hrest⟩ := List.forall_mem_cons.1 hq
    rw [ih h.2 hrest, respond_eq_self he]

theorem entries_respond (d : Directory) (query : Query) : (d.respond query).2.entries = d.entries := by
  cases query with
  | record registration =>
    simp only [respond, record]
    split <;> rfl
  | authenticate _ _ => rfl
  | findUser _ => rfl
  | findDevices _ _ => rfl

/-- Whatever a directory is asked, its users stay the same. -/
theorem Answers.entries_eq (h : Answers d asked d') : d'.entries = d.entries := by
  induction asked generalizing d with
  | nil => exact congrArg entries h
  | cons e rest ih => exact (ih h.2).trans (d.entries_respond e.question)

/-- What is remembered after an answer. -/
theorem registrations_respond (d : Directory) (query : Query) :
    (d.respond query).2.registrations =
      d.registrations ++ (added? ⟨query, (d.respond query).1⟩).toList := by
  cases query with
  | record registration =>
    simp only [respond, record]
    split
    · rfl
    · exact (List.append_nil _).symm
  | authenticate _ _ => exact (List.append_nil _).symm
  | findUser _ => exact (List.append_nil _).symm
  | findDevices _ _ => exact (List.append_nil _).symm

/-- Afterwards the directory remembers what it agreed to add, and all that it remembered before. -/
theorem Answers.registrations_eq (h : Answers d asked d') :
    d'.registrations = d.registrations ++ asked.filterMap added? := by
  induction asked generalizing d with
  | nil =>
    obtain rfl : d' = d := h
    exact (List.append_nil _).symm
  | cons e rest ih =>
    obtain ⟨query, answer⟩ := e
    obtain ⟨rfl, hrest⟩ := h
    rw [ih hrest, registrations_respond, List.append_assoc, List.filterMap_cons]
    cases added? ⟨query, (d.respond query).1⟩ with
    | none => rfl
    | some registration => rfl

end TwoStepLogin.Directory
