import Mathlib
import TwoStepLogin.Account.Wire
import TwoStepLogin.Fido.Wire
import TwoStepLogin.Host.Answer
import TwoStepLogin.Proofs.Json.RecordTexts

/-!
# Records on the wire

What the host, the FIDO server and the directory tell each other about is written as JSON and read
back unchanged, whatever texts the fields hold and whichever optional ones are there. An optional
field that is absent is left out of an answer or a verdict and written as `null` in a device
registration; decoding admits both for each of them.

* `Fido.Metadata.agrees` and likewise for the other five kinds of record;
* `Host.wire_records_agree` — all of them.
-/

set_option autoImplicit false

namespace TwoStepLogin

open Json (Fits)
open Json.Record (Agrees agrees_of_members fromMembers? text? optionalText? optionalUInt32?)

/-! ## Values of fields -/

theorem optionalText?_ofText? (s : Option String) : optionalText? (.ofText? s) = some s := by
  cases s <;> rfl

theorem optionalUInt32?_toNat (n : UInt32) : optionalUInt32? (.ofNat n.toNat) = some (some n) := by
  have hn : n.toNat < 4294967296 := n.toNat_lt
  simp [Json.ofNat, optionalUInt32?, hn]

theorem optionalUInt32?_null : optionalUInt32? .null = some none := rfl

theorem fits_ofText? (d : Nat) (s : Option String) : Fits d (.ofText? s) := by
  cases s with
  | none => exact .null
  | some s => exact .string s

theorem fits_toNat (d : Nat) (n : UInt32) : Fits d (.ofNat n.toNat) := by
  have hn : n.toNat < 4294967296 := n.toNat_lt
  exact .integer (by omega) (by omega)

/-! ## Kinds of records -/

theorem Fido.Metadata.agrees : Agrees Fido.Metadata.fields Fido.Metadata.toJson Fido.Metadata.read? :=
  agrees_of_members fun m => ⟨_, rfl, by simp [Fits.string], by
    simp [fields, fromMembers?, ofValues?, text?]⟩

theorem Fido.Status.agrees : Agrees Fido.Status.fields Fido.Status.toJson Fido.Status.read? := by
  refine agrees_of_members fun s => ⟨_, rfl, ?_, ?_⟩
  · cases s.challenge <;> simp [Fits.string]
  · obtain ⟨status, _ | challenge⟩ := s <;>
      simp [fields, fromMembers?, ofValues?, text?, optionalText?]

theorem User.agrees : Agrees User.fields User.toJson User.read? :=
  agrees_of_members fun user => ⟨_, rfl, by simp [Fits.string], by
    simp [fields, fromMembers?, ofValues?, text?]⟩

theorem DeviceRegistration.agrees :
    Agrees DeviceRegistration.fields DeviceRegistration.toJson DeviceRegistration.read? :=
  agrees_of_members fun r => ⟨_, rfl, by simp [Fits.string, fits_ofText?], by
    simp [fields, fromMembers?, ofValues?, text?, optionalText?_ofText?]⟩

namespace Host

theorem Health.agrees : Agrees Health.fields Health.toJson Health.read? :=
  agrees_of_members fun h => ⟨_, rfl, by simp [Fits.string], by
    simp [fields, fromMembers?, ofValues?, text?]⟩

theorem StepAnswer.agrees : Agrees StepAnswer.fields StepAnswer.toJson StepAnswer.read? := by
  refine agrees_of_members fun a => ⟨_, rfl, ?_, ?_⟩
  · obtain ⟨status, _ | step, _ | page, _ | user⟩ := a <;>
      simp [present, Fits.string, fits_toNat]
  · obtain ⟨status, _ | step, _ | page, _ | user⟩ := a <;>
      simp [fields, present, fromMembers?, ofValues?, text?, optionalText?, optionalUInt32?_null,
        optionalUInt32?_toNat]

/-- Encoding and decoding agree for everything that goes over the wire. -/
theorem wire_records_agree :
    Agrees Fido.Metadata.fields Fido.Metadata.toJson Fido.Metadata.read? ∧
    Agrees Fido.Status.fields Fido.Status.toJson Fido.Status.read? ∧
    Agrees User.fields User.toJson User.read? ∧
    Agrees DeviceRegistration.fields DeviceRegistration.toJson DeviceRegistration.read? ∧
    Agrees Health.fields Health.toJson Health.read? ∧
    Agrees StepAnswer.fields StepAnswer.toJson StepAnswer.read? :=
  ⟨Fido.Metadata.agrees, Fido.Status.agrees, User.agrees, DeviceRegistration.agrees, Health.agrees,
    StepAnswer.agrees⟩

/-- A verdict whose fields are swapped, behind a member of another name. -/
def shuffledVerdict : String :=
  "\x7b\"log\": [0, \x7b\x7d], \"challenge\": \"c\", \"status\": \"success\"\x7d"

theorem shuffled_verdict_is_read : Fido.Status.read? shuffledVerdict = some ⟨"success", some "c"⟩ := by
  have hagrees : Agrees Fido.Status.fields Fido.Status.toJson Fido.Status.read? :=
    wire_records_agree.2.1
  obtain ⟨ms, hobject, hwritten⟩ := hagrees.written ⟨"success", some "c"⟩
  obtain rfl : [("status", .string "success"), ("challenge", .string "c")] = ms :=
    Json.object.inj hobject
  have hshuffled : Json.Written shuffledVerdict
      [("log", .array [.ofNat 0, .object []]), ("challenge", .string "c"),
        ("status", .string "success")] :=
    ⟨shuffledVerdict.toList.tail, [], by cbv, rfl, .inr ⟨60, by cbv⟩⟩
  have horder := List.reverse_perm [("status", Json.string "success"), ("challenge", .string "c"),
    ("log", .array [.ofNat 0, .object []])]
  rw [← hagrees.returned ⟨"success", some "c"⟩]
  refine hagrees.rearranged _ _ _ _ [("log", .array [.ofNat 0, .object []])] hwritten hshuffled
    horder ?_
  simp [Json.Record.Unknown, Fido.Status.fields]

end Host

end TwoStepLogin
