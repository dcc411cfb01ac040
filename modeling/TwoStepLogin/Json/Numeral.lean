import TwoStepLogin.Json.Basic
import TwoStepLogin.Number.Decimal

/-!
# Numbers in JSON text

* `Json.Numeral` — the parts of a written number;
* `Json.Numeral.read?` — the longest number at the head of a text;
* `Json.Numeral.toNumber?` — its value: whole numbers that fit 64 bits stay whole, all others are
  floating-point numbers computed from the leading digits that fit 64 bits.
-/

set_option autoImplicit false

namespace TwoStepLogin.Json

/-- A number as written: sign, whole digits, digits after the point, exponent. -/
structure Numeral where
  negative : Bool
  whole : List Nat
  fraction : Option (List Nat)
  exponent : Option Int
  deriving DecidableEq, Repr

namespace Numeral

/-- The digits at the head of a text. -/
def takeDigits : List Char → List Nat × List Char
  | [] => ([], [])
  | c :: cs =>
    match Decimal.digit? c with
    | some d =>
      let (ds, rest) := takeDigits cs
      (d :: ds, rest)
    | none => ([], c :: cs)

/-- Value of digits, the first counting most. -/
def valueOf (digits : List Nat) : Nat := digits.foldl (fun n d => 10 * n + d) 0

/-- The whole digits: a single zero, or digits that do not start with zero. -/
def takeWhole? (cs : List Char) : Option (List Nat × List Char) :=
  match takeDigits cs with
  | ([], _) => none
  | ([d], rest) => some ([d], rest)
  | (0 :: _, _) => none
  | (ds, rest) => some (ds, rest)

/-- The digits after a point, if there is one; a point needs at least one digit. -/
def takeFraction? : List Char → Option (Option (List Nat) × List Char)
  | '.' :: cs =>
    match takeDigits cs with
    | ([], _) => none
    | (ds, rest) => some (some ds, rest)
  | cs => some (none, cs)

/-- Digits of an exponent with the sign already read. -/
def takeExponentDigits? (negative : Bool) (cs : List Char) : Option (Option Int × List Char) :=
  match takeDigits cs with
  | ([], _) => none
  | (ds, rest) =>
    let n : Int := valueOf ds
    some (some (if negative then -n else n), rest)

/-- The exponent, if there is one; its mark needs at least one digit. -/
def takeExponent? : List Char → Option (Option Int × List Char)
  | c :: cs =>
    if c = 'e' ∨ c = 'E' then
      match cs with
      | '+' :: rest => takeExponentDigits? false rest
      | '-' :: rest => takeExponentDigits? true rest
      | _ => takeExponentDigits? false cs
    else some (none, c :: cs)
  | [] => some (none, [])

/-- A number without its sign. -/
def readUnsigned? (negative : Bool) (cs : List Char) : Option (Numeral × List Char) := do
  let (whole, cs) ← takeWhole? cs
  let (fraction, cs) ← takeFraction? cs
  let (exponent, cs) ← takeExponent? cs
  some (⟨negative, whole, fraction, exponent⟩, cs)

/-- The number at the head of a text and what follows it. -/
def read? : List Char → Option (Numeral × List Char)
  | '-' :: cs => readUnsigned? true cs
  | cs => readUnsigned? false cs

/-- The greatest 64-bit number. -/
def greatest64 : Nat := 18446744073709551615

/-- Take digits while the number stays within 64 bits; yields the number and the digits left over. -/
def accumulate : Nat → List Nat → Nat × List Nat
  | n, [] => (n, [])
  | n, d :: ds => if 10 * n + d ≤ greatest64 then accumulate (10 * n + d) ds else (n, d :: ds)

/-- The floating-point value: digits beyond 64 bits count as zeros before the point and are dropped
after it. -/
def toFloat? (numeral : Numeral) : Option Binary64 :=
  let (n, left) := accumulate 0 numeral.whole
  let fraction := numeral.fraction.getD []
  let (n, unused) := accumulate n fraction
  let places := fraction.length - unused.length
  let exponent := (left.length : Int) - (places : Int) + numeral.exponent.getD 0
  (Binary64.scale? n exponent).map fun x => if numeral.negative then x.neg else x

/-- The value of a written number; none if it lies beyond the range of floating-point numbers. A
minus sign before zero or before a number below `-2 ^ 63` makes it a floating-point number. -/
def toNumber? (numeral : Numeral) : Option Number :=
  let n := valueOf numeral.whole
  if numeral.fraction.isNone && numeral.exponent.isNone && n ≤ greatest64 then
    if numeral.negative then
      if n ≠ 0 ∧ n ≤ 9223372036854775808 then some (.integer (-(n : Int)))
      else numeral.toFloat?.map .float
    else some (.integer n)
  else numeral.toFloat?.map .float

end Numeral

end TwoStepLogin.Json
