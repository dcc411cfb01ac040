import TwoStepLogin.Json.Basic
import TwoStepLogin.Number.Shortest

/-!
# Writing JSON

The compact form: no white space, members in the order in which the value holds them, strings
escaped only where the grammar demands it, floating-point numbers by their shortest decimal.

* `Json.Printer.render` — a value as characters;
* `Json.compact` — a value as text.
-/

set_option autoImplicit false

namespace TwoStepLogin.Json

namespace Printer

/-- Lower-case hexadecimal digit. -/
def hexDigit (n : Nat) : Char :=
  if n < 10 then Char.ofNat (48 + n) else Char.ofNat (87 + n)

/-- A character inside a string: quotes, backslashes and control characters are escaped. -/
def escaped (c : Char) : List Char :=
  if c = '"' then ['\\', '"']
  else if c = '\\' then ['\\', '\\']
  else if c.toNat < 0x20 then
    if c.toNat = 8 then ['\\', 'b']
    else if c.toNat = 9 then ['\\', 't']
    else if c.toNat = 10 then ['\\', 'n']
    else if c.toNat = 12 then ['\\', 'f']
    else if c.toNat = 13 then ['\\', 'r']
    else ['\\', 'u', '0', '0', hexDigit (c.toNat / 16), hexDigit (c.toNat % 16)]
  else [c]

/-- A string with its quotes. -/
def quoted (s : String) : List Char := '"' :: s.toList.flatMap escaped ++ ['"']

/-- Numbers from `1e-5` up to, not including, `1e16` are positional; exponents carry their sign. -/
def style : Shortest.Style := ⟨-5, 15, 'e', true⟩

/-- A whole number. -/
def integer : Int → List Char
  | .ofNat n => (Nat.repr n).toList
  | .negSucc n => '-' :: (Nat.repr (n + 1)).toList

/-- A number. -/
def number : Number → List Char
  | .integer i => integer i
  | .float x => Shortest.text style x

mutual

/-- A value as characters. -/
def render : Json → List Char
  | .null => ['n', 'u', 'l', 'l']
  | .boolean true => ['t', 'r', 'u', 'e']
  | .boolean false => ['f', 'a', 'l', 's', 'e']
  | .number n => number n
  | .string s => quoted s
  | .array xs => '[' :: renderItems xs ++ [']']
  | .object ms => '{' :: renderMembers ms ++ ['}']

/-- Values separated by commas. -/
def renderItems : List Json → List Char
  | [] => []
  | [x] => render x
  | x :: y :: rest => render x ++ ',' :: renderItems (y :: rest)

/-- Members separated by commas. -/
def renderMembers : List (String × Json) → List Char
  | [] => []
  | [(name, x)] => quoted name ++ ':' :: render x
  | (name, x) :: m :: rest => quoted name ++ ':' :: render x ++ ',' :: renderMembers (m :: rest)

end

end Printer

/-- A value as compact text. -/
def compact (v : Json) : String := String.ofList (Printer.render v)

end TwoStepLogin.Json
