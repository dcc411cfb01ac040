import TwoStepLogin.Charset.Code

/-!
# Units of two bytes

Most characters are one unit of two bytes, the others are a pair of units.

* `Wide.char?` — the character that some bytes begin with;
* `Wide.code` — the charset, by the order of the two bytes.
-/

set_option autoImplicit false

namespace TwoStepLogin.Charset.Wide

/-- The number of two bytes. -/
def unit (bigEndian : Bool) (a b : Nat) : Nat := if bigEndian then a * 256 + b else b * 256 + a

/-- Whether a unit is the first of a pair. -/
def isFirst (u : Nat) : Bool := 0xD800 ≤ u && u ≤ 0xDBFF

/-- Whether a unit is the second of a pair. -/
def isSecond (u : Nat) : Bool := 0xDC00 ≤ u && u ≤ 0xDFFF

/-- The character of one unit or of a pair. -/
def code (bigEndian : Bool) : Code := fun a rest =>
  match rest with
  | [] => none
  | b :: after =>
    let u := unit bigEndian a b
    if isSecond u then none
    else if !isFirst u then some ([Char.ofNat u], 1)
    else
      match after with
      | c :: d :: _ =>
        let v := unit bigEndian c d
        if isSecond v then some ([Char.ofNat (0x10000 + (u - 0xD800) * 1024 + (v - 0xDC00))], 3)
        else none
      | _ => none

end TwoStepLogin.Charset.Wide
