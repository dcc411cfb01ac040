import TwoStepLogin.Proofs.Account.DirectoryLaws

/-!
# Parts of a directory

Registrations of one user cannot be seen in what a directory answers about others.

* `Directory.Query.concerned?` — whose devices a query is about;
* `Directory.Agree` — the same users, and the same devices of some of them;
* `Directory.Answers.transfer` — directories that agree on all that are concerned answer alike;
* `Directory.Answers.agree` — answers leave the devices of all others as they are.
-/

set_option autoImplicit false

namespace TwoStepLogin.Directory

/-- The inum of the user whose devices a query is about. -/
def Query.concerned? : Query → Option String
  | .findDevices inum _ => some inum
  | .record registration => some registration.userInum
  | .authenticate _ _ => none
  | .findUser _ => none

/-- Two directories have the same users, and the same devices of those with certain inums. -/
structure Agree (P : String → Prop) (d d₁ : Directory) : Prop where
  entries_eq : d.entries = d₁.entries
  devices_eq : ∀ inum, P inum → ∀ applicationId,
    d.devices inum applicationId = d₁.devices inum applicationId

variable {P : String → Prop} {d d₁ d₂ d' : Directory} {asked : List Inquiry}

namespace Agree

theorem refl (P : String → Prop) (d : Directory) : Agree P d d := ⟨rfl, fun _ _ _ => rfl⟩

theorem symm (h : Agree P d d₁) : Agree P d₁ d :=
  ⟨h.entries_eq.symm, fun inum hp applicationId => (h.devices_eq inum hp applicationId).symm⟩

theorem trans (h : Agree P d d₁) (h' : Agree P d₁ d₂) : Agree P d d₂ where
  entries_eq := h.entries_eq.trans h'.entries_eq
  devices_eq inum hp applicationId :=
    (h.devices_eq inum hp applicationId).trans (h'.devices_eq inum hp applicationId)

theorem addDevice (h : Agree P d d₁) (registration : DeviceRegistration) :
    Agree P (d.addDevice registration) (d₁.addDevice registration) where
  entries_eq := h.entries_eq
  devices_eq inum hp applicationId := by
    rw [devices_addDevice, devices_addDevice, h.devices_eq inum hp applicationId]

/-- Directories that agree give the same answer, and agree afterwards. -/
theorem respond (h : Agree P d d₁) {query : Query} (hq : ∀ inum, query.concerned? = some inum → P inum) :
    (d₁.respond query).1 = (d.respond query).1 ∧ Agree P (d.respond query).2 (d₁.respond query).2 := by
  have hentry : ∀ name, d₁.entryFor? name = d.entryFor? name :=
    fun name => by rw [entryFor?, entryFor?, h.entries_eq]
  cases query with
  | authenticate name password =>
    refine ⟨?_, h⟩
    show d₁.accepts name password = d.accepts name password
    rw [accepts, accepts, hentry]
  | findUser name =>
    refine ⟨congrArg Except.ok ?_, h⟩
    rw [user?, user?, hentry]
  | findDevices inum applicationId =>
    exact ⟨congrArg Except.ok (h.devices_eq inum (hq inum rfl) applicationId).symm, h⟩
  | record registration =>
    have hknows : d₁.knowsInum registration.userInum = d.knowsInum registration.userInum := by
      rw [knowsInum, knowsInum, h.entries_eq]
    simp only [Directory.respond, record, hknows]
    split
    · exact ⟨rfl, h.addDevice registration⟩
    · exact ⟨rfl, h⟩

end Agree

/-- Directories that agree on all that are concerned answer alike. -/
theorem Answers.transfer (h : Answers d asked d') (ha : Agree P d d₁)
    (hq : ∀ e ∈ asked, ∀ inum, e.question.concerned? = some inum → P inum) :
    ∃ d₁', Answers d₁ asked d₁' ∧ Agree P d' d₁' := by
  induction asked generalizing d d₁ with
  | nil =>
    obtain rfl : d' = d := h
    exact ⟨d₁, rfl, ha⟩
  | cons e rest ih =>
    obtain ⟨hask, hrest⟩ := List.forall_mem_cons.1 hq
    obtain ⟨hanswer, hagree⟩ := ha.respond hask
    obtain ⟨d₁', hd₁, hd'⟩ := ih h.2 hagree hrest
    exact ⟨d₁', ⟨h.1.trans hanswer.symm, hd₁⟩, hd'⟩

/-- A query leaves the devices of all that it is not about as they are. -/
theorem agree_respond (d : Directory) {query : Query}
    (hq : ∀ inum, query.concerned? = some inum → ¬P inum) : Agree P d (d.respond query).2 := by
  cases query with
  | record registration =>
    simp only [respond, record]
    split
    · refine ⟨rfl, fun inum hp applicationId => ?_⟩
      have hne : ¬(registration.userInum = inum ∧ registration.applicationId = applicationId) :=
        fun he => hq registration.userInum rfl (he.1 ▸ hp)
      rw [devices_addDevice, if_neg hne, List.append_nil]
    · exact .refl P d
  | authenticate _ _ => exact .refl P d
  | findUser _ => exact .refl P d
  | findDevices _ _ => exact .refl P d

/-- Answers leave the devices of all that they are not about as they are. -/
theorem Answers.agree (h : Answers d asked d')
    (hq : ∀ e ∈ asked, ∀ inum, e.question.concerned? = some inum → ¬P inum) : Agree P d d' := by
  induction asked generalizing d with
  | nil =>
    obtain rfl : d' = d := h
    exact .refl P d'
  | cons e rest ih =>
    obtain ⟨hask, hrest⟩ := List.forall_mem_cons.1 hq
    exact (agree_respond d hask).trans (ih h.2 hrest)

end TwoStepLogin.Directory
