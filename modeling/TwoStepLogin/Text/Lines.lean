import TwoStepLogin.Text.Blank

/-!
# Lines

* `Text.lines` — the lines of a text;
* `Text.linesWritten` — the lines that stand on a terminal after messages have been written to it.
-/

set_option autoImplicit false

namespace TwoStepLogin.Text

/-- A line without one carriage return at its end. -/
def dropReturn (line : List Char) : List Char :=
  match line.reverse with
  | '\r' :: rest => rest.reverse
  | _ => line

/-- The lines of a text, the one after its last line feed included. -/
def lines (text : String) : List (List Char) := (splitOn '\n' text.toList).map dropReturn

/-- The lines of messages that are written one after the other, each with a line feed behind it. -/
def linesWritten (messages : List String) : List String :=
  messages.flatMap fun message => (lines message).map String.ofList

end TwoStepLogin.Text
