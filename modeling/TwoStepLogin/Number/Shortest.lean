import TwoStepLogin.Number.Binary64

/-!
# Shortest decimal text of a binary number

Among the decimals that round to a given `Binary64`, take one with the fewest digits, and of those
the one nearest to the number; an exact tie goes to the even last digit.

* `Shortest.accepts` — which fractions round back to the number;
* `Shortest.digits` — the chosen digits and the power of ten of the first of them;
* `Shortest.Style`, `Shortest.text` — how the digits are laid out.
-/

set_option autoImplicit false

namespace TwoStepLogin.Shortest

/-- A positive decimal: its digits as a whole number and the power of ten of its last digit. -/
structure Decimal where
  digits : Nat
  exponent : Int
  deriving DecidableEq, Repr

/-- `digits * 10 ^ exponent` as a fraction of whole numbers. -/
def Decimal.ratio (x : Decimal) : Nat × Nat :=
  if 0 ≤ x.exponent then (x.digits * Nat.pow 10 x.exponent.toNat, 1)
  else (x.digits, Nat.pow 10 (-x.exponent).toNat)

/-- Whether a decimal lies among the reals that round to `significand * 2 ^ exponent`. The ends of
that interval belong to it exactly if the significand is even; below a power of two the lower half
of the interval is narrower. -/
def accepts (x : Binary64) (candidate : Decimal) : Bool :=
  let (n, d) := candidate.ratio
  let narrow := x.significand = Nat.pow 2 52 ∧ x.exponent > Binary64.leastExponent
  let (lowNum, lowDen) := Binary64.ratio ⟨false, if narrow then 4 * x.significand - 1
    else 4 * x.significand - 2, x.exponent - 2⟩
  let (highNum, highDen) := Binary64.ratio ⟨false, 4 * x.significand + 2, x.exponent - 2⟩
  if x.significand % 2 = 0 then
    lowNum * d ≤ n * lowDen && n * highDen ≤ highNum * d
  else
    lowNum * d < n * lowDen && n * highDen < highNum * d

/-- The greatest `k` with `10 ^ k ≤ num / den`, for a positive fraction. -/
def floorLog10 (num den : Nat) : Int :=
  let bits : Int := (num.log2 : Int) - (den.log2 : Int)
  let guess := bits * 30103 / 100000
  let atLeast (k : Int) : Bool :=
    let (n, d) := Decimal.ratio ⟨1, k⟩
    n * den ≤ num * d
  if atLeast (guess + 1) then guess + 1
  else if atLeast guess then guess
  else guess - 1

/-- The decimals with `count` digits next to `num / den`, below (or equal) and above. -/
def neighbours (num den : Nat) (leading : Int) (count : Nat) : Decimal × Decimal :=
  let unit := leading - (count : Int) + 1
  let (n, d) := Decimal.ratio ⟨1, unit⟩
  let low := num * d / (den * n)
  (⟨low, unit⟩, ⟨low + 1, unit⟩)

/-- Whether the first of two neighbours is the nearer to `num / den`, or as near and even. -/
def prefersFirst (num den : Nat) (low high : Decimal) : Bool :=
  let (a, b) := low.ratio
  let (c, d) := high.ratio
  let below := (num * b - a * den) * d
  let above := (c * den - num * d) * b
  below < above || (below = above && low.digits % 2 = 0)

/-- The first count of digits, from `count` on, at which a neighbour rounds back. -/
def search (x : Binary64) (num den : Nat) (leading : Int) : Nat → Nat → Decimal
  | 0, count => (neighbours num den leading count).1
  | fuel + 1, count =>
    let (low, high) := neighbours num den leading count
    match accepts x low, accepts x high with
    | true, true => if prefersFirst num den low high then low else high
    | true, false => low
    | false, true => high
    | false, false => search x num den leading fuel (count + 1)

/-- The digits without zeros at the end. -/
def stripZeros (x : Decimal) : Nat → Decimal
  | 0 => x
  | fuel + 1 => if x.digits % 10 = 0 then stripZeros ⟨x.digits / 10, x.exponent + 1⟩ fuel else x

/-- Shortest decimal of a positive number. -/
def decimal (x : Binary64) : Decimal :=
  let (num, den) := x.ratio
  stripZeros (search x num den (floorLog10 num den) 17 1) 20

/-- How a decimal is laid out. Exponents of the first digit from `leastPositional` to
`greatestPositional` are written positionally, with one zero after the point if there is no
fraction; the others with a mark and a signed exponent. -/
structure Style where
  leastPositional : Int
  greatestPositional : Int
  mark : Char
  plus : Bool

/-- Lay out digits whose first has the power of ten `leading`. -/
def Style.layout (style : Style) (digits : List Char) (leading : Int) : List Char :=
  if style.leastPositional ≤ leading ∧ leading ≤ style.greatestPositional then
    if leading < 0 then
      '0' :: '.' :: List.replicate (-leading - 1).toNat '0' ++ digits
    else
      let whole := leading.toNat + 1
      if digits.length ≤ whole then
        digits ++ List.replicate (whole - digits.length) '0' ++ ['.', '0']
      else digits.take whole ++ '.' :: digits.drop whole
  else
    let fraction := if digits.length ≤ 1 then digits else digits.take 1 ++ '.' :: digits.drop 1
    let sign := if leading < 0 then ['-'] else if style.plus then ['+'] else []
    fraction ++ style.mark :: sign ++ (Nat.repr leading.natAbs).toList

/-- Text of a number, zero included. -/
def text (style : Style) (x : Binary64) : List Char :=
  let sign := if x.negative then ['-'] else []
  if x.significand = 0 then sign ++ ['0', '.', '0']
  else
    let d := decimal x
    let digits := (Nat.repr d.digits).toList
    sign ++ style.layout digits (d.exponent + (digits.length : Int) - 1)

end TwoStepLogin.Shortest
