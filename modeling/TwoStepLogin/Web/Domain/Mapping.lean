import TwoStepLogin.Unicode.Unassigned
import TwoStepLogin.Web.Domain.Shift
import TwoStepLogin.Web.Domain.Sign
import TwoStepLogin.Web.Domain.Word

/-!
# Characters of host names

Host names are compared without regard to case and width.

* `Domain.isDropped` — characters that leave no trace in a host name;
* `Domain.isRefused` — characters that may not occur;
* `Domain.replace?` — what stands for a character: itself, others, nothing, or none if it may not
  occur;
* `Domain.mapped?` — what stands for a text.
-/

set_option autoImplicit false

namespace TwoStepLogin.Web.Domain

namespace Mapping

/-- Characters that cannot be seen and leave no trace. -/
def dropped : Ranges := [
  (0xAD, 0xAD), (0x34F, 0x34F), (0x115F, 0x1160), (0x17B4, 0x17B5), (0x180B, 0x180F),
  (0x200B, 0x200B), (0x2060, 0x2064), (0x206A, 0x206F), (0x3164, 0x3164), (0xFE00, 0xFE0F),
  (0xFEFF, 0xFEFF), (0xFFA0, 0xFFA0), (0x1BCA0, 0x1BCA3), (0x1D173, 0x1D17A), (0xE0100, 0xE01EF)]

/-- Assigned characters that may not occur: controls, signs that steer how others are written, signs
that contain a dot, descriptions of ideographs, and characters without a public meaning. -/
def refused : Ranges := [
  (0x80, 0x9F), (0x600, 0x605), (0x61C, 0x61C), (0x6DD, 0x6DD), (0x70F, 0x70F), (0x890, 0x891),
  (0x8E2, 0x8E2), (0x1680, 0x1680), (0x200E, 0x200F), (0x2024, 0x2026), (0x2028, 0x202E),
  (0x2066, 0x2069), (0x2488, 0x249B), (0x2FF0, 0x2FFF), (0x31EF, 0x31EF), (0x33C2, 0x33C2),
  (0x33C7, 0x33C7), (0x33D8, 0x33D8), (0xE000, 0xF8FF), (0xFE12, 0xFE12), (0xFE19, 0xFE19),
  (0xFE30, 0xFE30), (0xFE52, 0xFE52), (0xFFF9, 0xFFFD), (0x110BD, 0x110BD), (0x110CD, 0x110CD),
  (0x13430, 0x1343F), (0x1F100, 0x1F100), (0xE0001, 0xE0001), (0xE0020, 0xE007F),
  (0xF0000, 0xFFFFD), (0x100000, 0x10FFFD)]

end Mapping

/-- Whether a character leaves no trace. -/
def isDropped (c : Char) : Bool := Mapping.dropped.holds c

/-- Whether a character may not occur. -/
def isRefused (c : Char) : Bool := Mapping.refused.holds c || Unicode.isUnassigned c

/-- What stands for a character. -/
def replace? (c : Char) : Option (List Char) :=
  if c.toNat < 0x80 then some [c.toLower]
  else if isDropped c then some []
  else if isRefused c then none
  else
    match word? c.toNat with
    | some others => some others
    | none =>
      match shifted? c.toNat with
      | some n => some [Char.ofNat n]
      | none => some [(signs.at? c.toNat).getD c]

/-- What stands for a text. -/
def mapped? (cs : List Char) : Option (List Char) := (cs.mapM replace?).map List.flatten

end TwoStepLogin.Web.Domain
