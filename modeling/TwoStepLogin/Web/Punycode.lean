/-!
# Punycode

Text of any characters as letters, digits and dashes: first the ASCII characters of the text, then
the positions of all others, in the order of their code points.

* `Punycode.encode` — characters to ASCII;
* `Punycode.decode?` — back, none if the text is not of this form.
-/

set_option autoImplicit false

namespace TwoStepLogin.Web.Punycode

/-- The character for a digit in base 36. -/
def symbol (d : Nat) : Char := if d < 26 then Char.ofNat (97 + d) else Char.ofNat (22 + d)

/-- Value of a digit in base 36. -/
def value? (c : Char) : Option Nat :=
  let n := c.toNat
  if 97 ≤ n ∧ n ≤ 122 then some (n - 97)
  else if 65 ≤ n ∧ n ≤ 90 then some (n - 65)
  else if 48 ≤ n ∧ n ≤ 57 then some (n - 22)
  else none

/-- The threshold of a digit, by its place and the bias. -/
def threshold (place bias : Nat) : Nat :=
  if place ≤ bias then 1 else if bias + 26 ≤ place then 26 else place - bias

theorem threshold_pos (place bias : Nat) : 1 ≤ threshold place bias := by
  unfold threshold; split <;> (try split) <;> omega

theorem threshold_le (place bias : Nat) : threshold place bias ≤ 26 := by
  unfold threshold; split <;> (try split) <;> omega

/-- Divide by 35 until at most 455 is left, counting by 36. -/
def shrink (delta steps : Nat) : Nat × Nat :=
  if 455 < delta then shrink (delta / 35) (steps + 36) else (delta, steps)
termination_by delta
decreasing_by exact Nat.div_lt_self (by omega) (by omega)

/-- The bias for the next number. -/
def adapt (delta count : Nat) (first : Bool) : Nat :=
  let delta := if first then delta / 700 else delta / 2
  let (rest, steps) := shrink (delta + delta / count) 0
  steps + 36 * rest / (rest + 38)

/-- A number as digits of varying weight. -/
def digits (bias place q : Nat) : List Char :=
  let t := threshold place bias
  if q < t then [symbol q]
  else symbol (t + (q - t) % (36 - t)) :: digits bias (place + 36) ((q - t) / (36 - t))
termination_by q
decreasing_by
  have h₁ := threshold_pos place bias
  have h₂ := threshold_le place bias
  calc (q - threshold place bias) / (36 - threshold place bias)
      ≤ q - threshold place bias := Nat.div_le_self _ _
    _ < q := by omega

/-- What has been written, and the numbers that decide on the next digits. -/
structure State where
  output : List Char
  delta : Nat
  bias : Nat
  handled : Nat

/-- Look at one character while all of one code point are written. -/
def State.visit (basic point : Nat) (s : State) (c : Char) : State :=
  if c.toNat < point then { s with delta := s.delta + 1 }
  else if c.toNat = point then
    ⟨s.output ++ digits s.bias 36 s.delta, 0,
     adapt s.delta (s.handled + 1) (s.handled == basic), s.handled + 1⟩
  else s

/-- Write all characters of the given code points, which ascend. -/
def encodePoints (input : List Char) (basic : Nat) : (points : List Nat) → Nat → State → State
  | [], _, s => s
  | point :: rest, least, s =>
    let s := { s with delta := s.delta + (point - least) * (s.handled + 1) }
    let s := input.foldl (State.visit basic point) s
    encodePoints input basic rest (point + 1) { s with delta := s.delta + 1 }

/-- Put a number into an ascending list, once. -/
def insertPoint (n : Nat) : List Nat → List Nat
  | [] => [n]
  | m :: rest => if n < m then n :: m :: rest else if n = m then m :: rest else m :: insertPoint n rest

/-- Characters as ASCII. -/
def encode (input : List Char) : List Char :=
  let basic := input.filter fun c => c.toNat < 0x80
  let points := (input.filter fun c => 0x80 ≤ c.toNat).foldr (fun c ps => insertPoint c.toNat ps) []
  let s := encodePoints input basic.length points 128 ⟨[], 0, 72, basic.length⟩
  basic ++ (if basic.isEmpty then [] else ['-']) ++ s.output

/-- One number at the head of the digits, added to `i`. -/
def number? (bias : Nat) : List Char → (place weight i : Nat) → Option (Nat × List Char)
  | [], _, _, _ => none
  | c :: rest, place, weight, i =>
    match value? c with
    | none => none
    | some d =>
      let i := i + d * weight
      let t := threshold place bias
      if d < t then some (i, rest) else number? bias rest (place + 36) (weight * (36 - t)) i

/-- Insert the characters that the digits describe. -/
def insertAll : Nat → List Char → (point i bias : Nat) → List Char → Option (List Char)
  | 0, _, _, _, _, _ => none
  | fuel + 1, cs, point, i, bias, output =>
    if cs.isEmpty then some output
    else
      match number? bias cs 36 1 i with
      | none => none
      | some (next, rest) =>
        let count := output.length + 1
        let bias := adapt (next - i) count (i == 0)
        let point := point + next / count
        let place := next % count
        if 0x110000 ≤ point ∨ (0xD800 ≤ point ∧ point ≤ 0xDFFF) then none
        else
          insertAll fuel rest point (place + 1) bias
            (output.take place ++ Char.ofNat point :: output.drop place)

/-- The part before the last dash and the part after it. -/
def splitLast (cs : List Char) : List Char × List Char :=
  let after := (cs.reverse.takeWhile (· != '-')).reverse
  if after.length = cs.length then ([], cs)
  else (cs.take (cs.length - after.length - 1), after)

/-- The characters of an ASCII text. -/
def decode? (cs : List Char) : Option (List Char) :=
  let (basic, rest) := splitLast cs
  if basic.any fun c => 0x80 ≤ c.toNat then none
  else insertAll (rest.length + 1) rest 128 0 72 basic

end TwoStepLogin.Web.Punycode
