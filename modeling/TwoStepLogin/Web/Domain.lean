import TwoStepLogin.Text.Blank
import TwoStepLogin.Text.Percent
import TwoStepLogin.Text.Utf8
import TwoStepLogin.Unicode.Normal
import TwoStepLogin.Web.Domain.Label
import TwoStepLogin.Web.Domain.Mapping
import TwoStepLogin.Web.Punycode

/-!
# Host names

* `Domain.isForbidden` — ASCII characters that no host name holds;
* `Domain.encoded?` — the ASCII form of a label;
* `Domain.toAscii?` — the ASCII form of a host name, in lower case.
-/

set_option autoImplicit false

namespace TwoStepLogin.Web.Domain

/-- Characters that a host name may not hold. -/
def isForbidden (c : Char) : Bool :=
  c.toNat ≤ 0x20 || c.toNat == 0x7F ||
    ['%', '#', '/', ':', '<', '>', '?', '@', '[', '\\', ']', '^', '|'].contains c

/-- Whether a character is an ASCII character. -/
def isAscii (c : Char) : Bool := c.toNat < 0x80

/-- What an ASCII label in encoded form starts with. -/
def mark : List Char := ['x', 'n', '-', '-']

/-- The most characters of an encoded label behind its mark. -/
def maxEncoded : Nat := 2000

/-- The most characters of a label that is to be encoded. -/
def maxPlain : Nat := 1000

/-- The characters of a label: of an encoded one, those that it encodes, if it is the only label
that encodes them. -/
def plain? (label : List Char) : Option (List Char) :=
  if !mark.isPrefixOf label then some label
  else
    let digits := label.drop mark.length
    if maxEncoded < digits.length || !digits.all isAscii then none
    else
      match Punycode.decode? digits with
      | none => none
      | some cs =>
        if !cs.all isAscii && mapped? cs == some cs && Unicode.normal cs == cs &&
            Punycode.encode cs == digits then some cs
        else none

/-- The ASCII form of a label with the given characters. -/
def encoded? (label cs : List Char) : Option (List Char) :=
  if cs.all isAscii then some label
  else if !Label.isReadable cs then none
  else if label.all isAscii then some label
  else if maxPlain < label.length then none
  else some (mark ++ Punycode.encode label)

/-- The ASCII form of a host name. -/
def toAscii? (cs : List Char) : Option (List Char) := do
  let labels := Text.splitOn '.' (Unicode.normal (← mapped? cs))
  let plain ← labels.mapM plain?
  if plain.any Label.turns && !plain.all Label.isDirected then none
  else
    let encoded ← (labels.zip plain).mapM fun (label, cs) => encoded? label cs
    let name := ['.'].intercalate encoded
    if name.any isForbidden then none else some name

end TwoStepLogin.Web.Domain
