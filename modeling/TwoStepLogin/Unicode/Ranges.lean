/-!
# Sets of characters

* `Ranges` — a set of code points, as closed ranges;
* `Ranges.contains`, `Ranges.holds` — membership of code points and characters.
-/

set_option autoImplicit false

namespace TwoStepLogin

/-- Closed ranges of code points. -/
abbrev Ranges := List (Nat × Nat)

/-- Whether a code point lies in one of the ranges. -/
def Ranges.contains (ranges : Ranges) (n : Nat) : Bool :=
  ranges.any fun range => range.1 ≤ n && n ≤ range.2

/-- Whether a character lies in one of the ranges. -/
def Ranges.holds (ranges : Ranges) (c : Char) : Bool := ranges.contains c.toNat

end TwoStepLogin
