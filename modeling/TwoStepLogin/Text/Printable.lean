import TwoStepLogin.Unicode.Mark
import TwoStepLogin.Unicode.Unassigned

/-!
# Characters that are shown by their number

A quoted text shows a character by its number if a reader could not see it, or could not tell it
from its neighbours.

* `Text.isFormat` — characters that steer how others are written;
* `Text.isPrivate` — characters without a public meaning;
* `Text.shownByNumber` — these, controls, blanks other than the space, unassigned code points, and
  characters that join with the one before them.
-/

set_option autoImplicit false

namespace TwoStepLogin.Text

namespace Printable

/-- Characters that steer how others are written. -/
def formats : Ranges := [
  (0xAD, 0xAD), (0x600, 0x605), (0x61C, 0x61C), (0x6DD, 0x6DD), (0x70F, 0x70F), (0x890, 0x891),
  (0x8E2, 0x8E2), (0x180E, 0x180E), (0x200B, 0x200F), (0x202A, 0x202E), (0x2060, 0x2064),
  (0x2066, 0x206F), (0xFEFF, 0xFEFF), (0xFFF9, 0xFFFB), (0x110BD, 0x110BD), (0x110CD, 0x110CD),
  (0x13430, 0x1343F), (0x1BCA0, 0x1BCA3), (0x1D173, 0x1D17A), (0xE0001, 0xE0001),
  (0xE0020, 0xE007F)]

/-- Characters whose meaning is left to those who use them. -/
def privateUse : Ranges := [(0xE000, 0xF8FF), (0xF0000, 0xFFFFD), (0x100000, 0x10FFFD)]

/-- Controls, and blanks other than the space. -/
def unseen : Ranges := [
  (0x00, 0x1F), (0x7F, 0xA0), (0x1680, 0x1680), (0x2000, 0x200A), (0x2028, 0x2029),
  (0x202F, 0x202F), (0x205F, 0x205F), (0x3000, 0x3000)]

/-- Letters of Hangul that only fill a place. -/
def fillers : Ranges := [(0x115F, 0x1160), (0x3164, 0x3164), (0xFFA0, 0xFFA0)]

end Printable

/-- Whether a character steers how others are written. -/
def isFormat (c : Char) : Bool := Printable.formats.holds c

/-- Whether a character has no public meaning. -/
def isPrivate (c : Char) : Bool := Printable.privateUse.holds c

/-- Whether the character is shown by its number. -/
def shownByNumber (c : Char) : Bool :=
  if c.toNat < 0x7F then c.toNat < 0x20
  else
    Printable.unseen.holds c || isFormat c || isPrivate c || Unicode.extendsCluster c ||
      Printable.fillers.holds c || Unicode.isUnassigned c

end TwoStepLogin.Text
