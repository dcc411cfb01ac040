import TwoStepLogin.Charset.BigFive
import TwoStepLogin.Charset.GuoBiao
import TwoStepLogin.Charset.Japanese
import TwoStepLogin.Charset.Korean
import TwoStepLogin.Charset.Label
import TwoStepLogin.Charset.Wide
import TwoStepLogin.Text.Utf8

/-!
# Reading bytes in a charset

* `Charset.decode?` — the characters of bytes, none if the bytes are malformed.
-/

set_option autoImplicit false

namespace TwoStepLogin.Charset

/-- A byte of the upper half as a character without a public meaning. -/
def userDefinedChar (b : Nat) : Char := if b < 0x80 then Char.ofNat b else Char.ofNat (0xF700 + b)

/-- The characters of bytes. -/
def decode? (charset : Charset) (bytes : List UInt8) : Option (List Char) :=
  let numbers := bytes.map UInt8.toNat
  match charset with
  | .utf8 => Utf8.decode? bytes
  | .utf16 bigEndian => (Wide.code bigEndian).decode? numbers
  | .page upper => upper.code.decode? numbers
  | .guoBiao => GuoBiao.code.decode? numbers
  | .bigFive => BigFive.code.decode? numbers
  | .extendedJapanese => Japanese.extended.decode? numbers
  | .escapedJapanese => Japanese.decodeEscaped? .ascii false numbers
  | .shiftedJapanese => Japanese.shifted.decode? numbers
  | .korean => Korean.code.decode? numbers
  | .userDefined => some (numbers.map userDefinedChar)

end TwoStepLogin.Charset
