import TwoStepLogin.Text.Chart

/-!
# Characters that follow from others

Some tables add to the characters of an older one all others of a block, in their order.

* `skip` — a number, moved behind all numbers of a list that come before it;
* `points` — the code points of a chart.
-/

set_option autoImplicit false

namespace TwoStepLogin.Charset

/-- A number, moved by one for each of the ascending numbers that it passes. -/
def skip : List Nat → Nat → Nat
  | [], n => n
  | taken :: rest, n => if taken ≤ n then skip rest (n + 1) else n

/-- The code points of a chart, run by run. -/
def points (chart : Text.Chart) : List Nat :=
  chart.flatMap fun (_, signs) => signs.toList.map Char.toNat

end TwoStepLogin.Charset
