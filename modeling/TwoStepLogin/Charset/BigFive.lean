import TwoStepLogin.Charset.BigFive.Common
import TwoStepLogin.Charset.BigFive.Further
import TwoStepLogin.Charset.BigFive.Supplement
import TwoStepLogin.Charset.Code

/-!
# The traditional Chinese charset

* `BigFive.number?` — the number of a pair of bytes;
* `BigFive.pair?` — the characters of a pair of bytes;
* `BigFive.code` — the charset.
-/

set_option autoImplicit false

namespace TwoStepLogin.Charset.BigFive

/-- The number of a pair of bytes. -/
def number? (first second : Nat) : Option Nat :=
  if first < 0x81 ∨ 0xFE < first then none
  else if 0x40 ≤ second ∧ second ≤ 0x7E then some ((first - 0x81) * 157 + (second - 0x40))
  else if 0xA1 ≤ second ∧ second ≤ 0xFE then some ((first - 0x81) * 157 + (second - 0x62))
  else none

/-- Numbers that stand for a letter with a mark that are no one character. -/
def marked? : Nat → Option (List Char)
  | 1133 => some ['\u00CA', '\u0304']
  | 1135 => some ['\u00CA', '\u030C']
  | 1164 => some ['\u00EA', '\u0304']
  | 1166 => some ['\u00EA', '\u030C']
  | _ => none

/-- All charts. -/
def all : Text.Chart := common ++ further ++ supplement

/-- The characters of a pair of bytes. -/
def pair? (first second : Nat) : Option (List Char) :=
  (number? first second).bind fun number =>
    (marked? number).or ((all.at? number).map fun c => [c])

/-- ASCII, and pairs for all other characters. -/
def code : Code := fun b rest =>
  if b < 0x80 then some ([Char.ofNat b], 0)
  else
    match rest with
    | second :: _ => (pair? b second).map fun cs => (cs, 1)
    | [] => none

end TwoStepLogin.Charset.BigFive
