/-!
# Whole numbers as decimal text

* `Decimal.natural?` — one or more ASCII digits;
* `Decimal.unsigned?` — an optional plus sign and digits, at most a given bound;
* `Decimal.signed?` — an optional sign and digits, between two bounds.

No blanks, no underscores and no digits beyond ASCII; leading zeros are allowed.
-/

set_option autoImplicit false

namespace TwoStepLogin.Decimal

/-- Value of an ASCII digit. -/
def digit? (c : Char) : Option Nat :=
  if '0' ≤ c ∧ c ≤ '9' then some (c.toNat - 48) else none

/-- Digits in front of a number already read. -/
def digits? : Nat → List Char → Option Nat
  | n, [] => some n
  | n, c :: cs => (digit? c).bind fun d => digits? (10 * n + d) cs

/-- One or more digits. -/
def natural? : List Char → Option Nat
  | [] => none
  | c :: cs => digits? 0 (c :: cs)

/-- Drop one plus sign. -/
def dropPlus : List Char → List Char
  | '+' :: cs => cs
  | cs => cs

/-- A number without a minus sign, at most `bound`. -/
def unsigned? (bound : Nat) (cs : List Char) : Option Nat :=
  (natural? (dropPlus cs)).bind fun n => if n ≤ bound then some n else none

/-- A number with an optional sign, between `least` and `greatest`. -/
def signed? (least greatest : Int) (cs : List Char) : Option Int :=
  let read : Option Int :=
    match cs with
    | '-' :: rest => (natural? rest).map fun n => -(n : Int)
    | _ => (natural? (dropPlus cs)).map fun n => (n : Int)
  read.bind fun i => if least ≤ i ∧ i ≤ greatest then some i else none

/-- A sixteen-bit port or count. -/
def uint16? (s : String) : Option UInt16 := (unsigned? 65535 s.toList).map UInt16.ofNat

/-- A 32-bit count. -/
def uint32? (s : String) : Option UInt32 := (unsigned? 4294967295 s.toList).map UInt32.ofNat

/-- A 64-bit count. -/
def uint64? (s : String) : Option UInt64 := (unsigned? 18446744073709551615 s.toList).map UInt64.ofNat

/-- A 64-bit number with a sign. -/
def int64? (s : String) : Option Int64 :=
  (signed? (-9223372036854775808) 9223372036854775807 s.toList).map Int64.ofInt

/-- A truth value, spelled in lower case. -/
def boolean? (s : String) : Option Bool :=
  if s = "true" then some true else if s = "false" then some false else none

end TwoStepLogin.Decimal
