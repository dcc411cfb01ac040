import TwoStepLogin.Text.Printable

/-!
# Quoted text in messages

Texts that stand inside a message are put in double quotes, so that their ends can be seen.

* `Quoted.escaped` — a character between quotes;
* `Quoted.text`, `Quoted.optional`, `Quoted.list` — a text, a text or nothing, several texts.
-/

set_option autoImplicit false

namespace TwoStepLogin.Quoted

/-- Hexadecimal digits of a number, lower case, without leading zeros. -/
def hexDigits (n : Nat) : List Char := Nat.toDigits 16 n

/-- A character between quotes. -/
def escaped (c : Char) : List Char :=
  match c with
  | '\x00' => ['\\', '0']
  | '\t' => ['\\', 't']
  | '\r' => ['\\', 'r']
  | '\n' => ['\\', 'n']
  | '\\' => ['\\', '\\']
  | '"' => ['\\', '"']
  | c => if Text.shownByNumber c then ['\\', 'u', '{'] ++ hexDigits c.toNat ++ ['}'] else [c]

/-- A text in quotes. -/
def text (s : String) : String := String.ofList ('"' :: s.toList.flatMap escaped ++ ['"'])

/-- A text or nothing. -/
def optional : Option String → String
  | none => "None"
  | some s => "Some(" ++ text s ++ ")"

/-- Texts in brackets. -/
def list (texts : List String) : String := "[" ++ ", ".intercalate (texts.map text) ++ "]"

end TwoStepLogin.Quoted
