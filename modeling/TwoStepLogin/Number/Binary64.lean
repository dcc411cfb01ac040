/-!
# Binary floating-point numbers of 64 bits

Finite numbers only, held exactly: a sign, a significand below 2⁵³ and a power of two.

* `Binary64.roundRatio?` — the number nearest to a quotient, ties to even; none beyond the range;
* `Binary64.mul?`, `Binary64.div?` — correctly rounded product and quotient of magnitudes;
* `Binary64.scale?` — a whole number times a power of ten, worked out in steps that round.
-/

set_option autoImplicit false

namespace TwoStepLogin

/-- A finite number `± significand * 2 ^ exponent`. -/
structure Binary64 where
  negative : Bool
  significand : Nat
  exponent : Int
  deriving DecidableEq, Repr

namespace Binary64

/-- Least exponent: that of the smallest numbers and of zero. -/
def leastExponent : Int := -1074

/-- Greatest exponent. -/
def greatestExponent : Int := 971

/-- Zero with the given sign. -/
def zero (negative : Bool) : Binary64 := ⟨negative, 0, leastExponent⟩

/-- The same number with the other sign. -/
def neg (x : Binary64) : Binary64 := { x with negative := !x.negative }

/-- Quotient of two numbers rounded to the nearest whole number, ties to even. -/
def roundQuotient (num den : Nat) : Nat :=
  let q := num / den
  let r := num % den
  if 2 * r > den ∨ (2 * r = den ∧ q % 2 = 1) then q + 1 else q

/-- `num / den / 2 ^ e` as a fraction of whole numbers. -/
def scaled (num den : Nat) (e : Int) : Nat × Nat :=
  if 0 ≤ e then (num, den * Nat.pow 2 e.toNat) else (num * Nat.pow 2 (-e).toNat, den)

/-- The exponent at which `num / den` has a significand of 53 bits, or the least exponent. -/
def exponentFor (num den : Nat) : Int :=
  let guess : Int := (num.log2 : Int) - (den.log2 : Int) - 52
  let (n, d) := scaled num den guess
  let e := if n / d < Nat.pow 2 52 then guess - 1 else guess
  if e < leastExponent then leastExponent else e

/-- The number nearest to `num / den`, none if it lies beyond the range. -/
def roundRatio? (negative : Bool) (num den : Nat) : Option Binary64 :=
  if num = 0 then some (zero negative)
  else
    let e := exponentFor num den
    let (n, d) := scaled num den e
    let q := roundQuotient n d
    let (q, e) := if q = Nat.pow 2 53 then (Nat.pow 2 52, e + 1) else (q, e)
    if e > greatestExponent then none else some ⟨negative, q, e⟩

/-- The magnitude as a fraction of whole numbers. -/
def ratio (x : Binary64) : Nat × Nat :=
  if 0 ≤ x.exponent then (x.significand * Nat.pow 2 x.exponent.toNat, 1)
  else (x.significand, Nat.pow 2 (-x.exponent).toNat)

/-- The number nearest to a whole number. -/
def ofNat? (n : Nat) : Option Binary64 := roundRatio? false n 1

/-- The number nearest to a power of ten. -/
def powerOfTen? (k : Nat) : Option Binary64 := roundRatio? false (Nat.pow 10 k) 1

/-- Rounded product of two magnitudes. -/
def mul? (x y : Binary64) : Option Binary64 :=
  let (a, b) := x.ratio
  let (c, d) := y.ratio
  roundRatio? false (a * c) (b * d)

/-- Rounded quotient of two magnitudes; none for a zero divisor. -/
def div? (x y : Binary64) : Option Binary64 :=
  let (a, b) := x.ratio
  let (c, d) := y.ratio
  if c = 0 then none else roundRatio? false (a * d) (b * c)

/-- Divide by `10 ^ n`, at most 308 decimal places at a time. -/
def scaleDown? (x : Binary64) (n : Nat) : Option Binary64 :=
  if n ≤ 308 then (powerOfTen? n).bind x.div?
  else if x.significand = 0 then some x
  else ((powerOfTen? 308).bind x.div?).bind fun y => scaleDown? y (n - 308)
termination_by n

/-- `n * 10 ^ exponent`: the whole number is rounded first, then the product or quotient with the
power of ten. -/
def scale? (n : Nat) (exponent : Int) : Option Binary64 :=
  (ofNat? n).bind fun x =>
    if 0 ≤ exponent then
      if exponent ≤ 308 then (powerOfTen? exponent.toNat).bind x.mul?
      else if x.significand = 0 then some x
      else none
    else scaleDown? x (-exponent).toNat

/-- The number nearest to `n * 10 ^ exponent`, none beyond the range. -/
def ofDecimal? (n : Nat) (exponent : Int) : Option Binary64 :=
  if n = 0 then some (zero false)
  else if exponent > 400 then none
  else if exponent < -(400 + (n.log2 : Int)) then some (zero false)
  else if 0 ≤ exponent then roundRatio? false (n * Nat.pow 10 exponent.toNat) 1
  else roundRatio? false n (Nat.pow 10 (-exponent).toNat)

end Binary64

end TwoStepLogin
