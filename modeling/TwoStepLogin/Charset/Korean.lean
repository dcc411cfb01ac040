import TwoStepLogin.Charset.Code
import TwoStepLogin.Charset.Korean.Standard
import TwoStepLogin.Charset.Skip

/-!
# The Korean charset

Standard characters are pairs of bytes from 0xA1 on. All syllables of Hangul that are no standard
characters stand, in their order, in the pairs that are left.

* `Korean.pair?` — the character of a pair of bytes;
* `Korean.code` — the charset.
-/

set_option autoImplicit false

namespace TwoStepLogin.Charset.Korean

/-- The number of a second byte among those that are no standard characters: letters, and bytes from
0x81 on. -/
def column? (second : Nat) : Option Nat :=
  if 0x41 ≤ second ∧ second ≤ 0x5A then some (second - 0x41)
  else if 0x61 ≤ second ∧ second ≤ 0x7A then some (second - 0x61 + 26)
  else if 0x81 ≤ second ∧ second ≤ 0xFE then some (second - 0x81 + 52)
  else none

/-- Code points of the syllables in common use. -/
def commonPoints : List Nat := points commonSyllables

/-- The syllable of a number among those that are not in common use. -/
def rareSyllable? (number : Nat) : Option Char :=
  if number < 8822 then some (Char.ofNat (skip commonPoints (0xAC00 + number))) else none

/-- The character of a pair of bytes. -/
def pair? (first second : Nat) : Option Char :=
  if first < 0x81 ∨ 0xFE < first then none
  else if first < 0xA1 then
    (column? second).bind fun column => rareSyllable? ((first - 0x81) * 178 + column)
  else if second < 0xA1 then
    (column? second).bind fun column => rareSyllable? (32 * 178 + (first - 0xA1) * 84 + column)
  else if second ≤ 0xFE then standard.at? ((first - 0xA1) * 94 + (second - 0xA1))
  else none

/-- ASCII, and pairs for all other characters. -/
def code : Code := fun b rest =>
  if b < 0x80 then some ([Char.ofNat b], 0)
  else
    match rest with
    | second :: _ => (pair? b second).map fun c => ([c], 1)
    | [] => none

end TwoStepLogin.Charset.Korean
