/-!
# Charts of characters

A chart gives the characters of numbered places, such as the cells of a code table. It is written in
runs: the number of a place, and the characters of this place and of those after it.

* `Chart` — the runs;
* `Chart.at?` — the character of a place, if the chart has one.
-/

set_option autoImplicit false

namespace TwoStepLogin.Text

/-- Runs of characters, each with the place of its first one. -/
abbrev Chart := List (Nat × String)

/-- The character of a place, in the first run that has it. -/
def Chart.at? (chart : Chart) (place : Nat) : Option Char :=
  chart.findSome? fun (first, signs) =>
    if first ≤ place then signs.toList[place - first]? else none

end TwoStepLogin.Text
