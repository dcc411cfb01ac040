import TwoStepLogin.Charset.Code
import TwoStepLogin.Charset.GuoBiao.Quads
import TwoStepLogin.Charset.GuoBiao.Standard
import TwoStepLogin.Charset.Skip

/-!
# The Chinese charset

Common characters are pairs of bytes. Ideographs that are not in common use stand, in their order,
in the pairs that are left; all other characters are four bytes.

* `GuoBiao.pair?` — the character of a pair of bytes;
* `GuoBiao.quad?` — the character of four bytes;
* `GuoBiao.code` — the charset.
-/

set_option autoImplicit false

namespace TwoStepLogin.Charset.GuoBiao

/-- The number of a second byte. -/
def column? (second : Nat) : Option Nat :=
  if 0x40 ≤ second ∧ second ≤ 0x7E then some (second - 0x40)
  else if 0x80 ≤ second ∧ second ≤ 0xFE then some (second - 0x41)
  else none

/-- Ascending code points of the ideographs in common use. -/
def commonPoints : List Nat := (points hanzi).mergeSort

/-- The ideograph of a number among those that are not in common use. -/
def rareHanzi? (number : Nat) : Option Char :=
  if number < 14139 then some (Char.ofNat (skip commonPoints (0x4E00 + number))) else none

/-- The character without a public meaning of a pair's number. -/
def private? (number : Nat) : Option Char :=
  (privates.find? fun (first, _, count) => first ≤ number && number < first + count).map
    fun (first, point, _) => Char.ofNat (point + (number - first))

/-- The character of a pair's number, if it is listed. -/
def listed? (number : Nat) : Option Char :=
  ((private? number).or (hanzi.at? number)).or (others.at? number)

/-- The ideograph of a pair that is left to those not in common use: the first 32 rows, and later
the first 96 cells of each row. -/
def unlisted? (row column : Nat) : Option Char :=
  if row < 32 then rareHanzi? (row * 190 + column)
  else if 41 ≤ row ∧ column < 96 then rareHanzi? (6080 + (row - 41) * 96 + column)
  else none

/-- The character of a pair of bytes. -/
def pair? (first second : Nat) : Option Char :=
  (column? second).bind fun column =>
    let row := first - 0x81
    (listed? (row * 190 + column)).or (unlisted? row column)

/-- The character of four bytes, of which the second and the fourth are digits. -/
def quad? (a b c d : Nat) : Option Char :=
  if 0x30 ≤ b ∧ b ≤ 0x39 ∧ 0x81 ≤ c ∧ c ≤ 0xFE ∧ 0x30 ≤ d ∧ d ≤ 0x39 then
    let number := (((a - 0x81) * 10 + (b - 0x30)) * 126 + (c - 0x81)) * 10 + (d - 0x30)
    (quadPoint? number).map Char.ofNat
  else none

/-- ASCII, the sign of the euro, pairs, and four bytes for all other characters. -/
def code : Code := fun a rest =>
  if a < 0x80 then some ([Char.ofNat a], 0)
  else if a = 0x80 then some (['\u20AC'], 0)
  else if a = 0xFF then none
  else
    match rest with
    | b :: c :: d :: _ =>
      if 0x30 ≤ b ∧ b ≤ 0x39 then (quad? a b c d).map fun ch => ([ch], 3)
      else (pair? a b).map fun ch => ([ch], 1)
    | b :: _ => (pair? a b).map fun ch => ([ch], 1)
    | [] => none

end TwoStepLogin.Charset.GuoBiao
