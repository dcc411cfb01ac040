import TwoStepLogin.Text.Utf8

/-!
# Percent-encoding

A byte that may not stand for itself is written as `%` and two upper-case hexadecimal digits.

* `Percent.encodeByte`, `Percent.encode` — bytes as characters, given the set of bytes kept as they are;
* `Percent.decode` — bytes with every well-formed escape replaced; a malformed one stays literal.
-/

set_option autoImplicit false

namespace TwoStepLogin.Percent

/-- Upper-case hexadecimal digit of a number below sixteen. -/
def hexDigit (n : Nat) : Char :=
  if n < 10 then Char.ofNat (48 + n) else Char.ofNat (55 + n)

/-- Value of a hexadecimal digit of either case, given as a byte. -/
def hexValue? (b : UInt8) : Option Nat :=
  let n := b.toNat
  if 48 ≤ n ∧ n ≤ 57 then some (n - 48)
  else if 65 ≤ n ∧ n ≤ 70 then some (n - 55)
  else if 97 ≤ n ∧ n ≤ 102 then some (n - 87)
  else none

/-- The escape of a byte. -/
def escape (b : UInt8) : List Char := ['%', hexDigit (b.toNat / 16), hexDigit (b.toNat % 16)]

/-- A byte as characters: itself if it is ASCII and kept, otherwise its escape. -/
def encodeByte (kept : UInt8 → Bool) (b : UInt8) : List Char :=
  if b.toNat < 0x80 && kept b then [Char.ofNat b.toNat] else escape b

/-- Bytes as characters. -/
def encode (kept : UInt8 → Bool) (bytes : List UInt8) : List Char := bytes.flatMap (encodeByte kept)

/-- Characters with all bytes outside the kept set escaped. -/
def encodeChars (kept : UInt8 → Bool) (cs : List Char) : List Char := encode kept (Utf8.encode cs)

/-- Replace every escape by its byte. -/
def decode : List UInt8 → List UInt8
  | [] => []
  | [a] => [a]
  | [a, b] => [a, b]
  | a :: b :: c :: rest =>
    if a = 37 then
      match hexValue? b, hexValue? c with
      | some x, some y => UInt8.ofNat (16 * x + y) :: decode rest
      | _, _ => a :: decode (b :: c :: rest)
    else a :: decode (b :: c :: rest)

/-- The ASCII letters and digits. -/
def isAlphanumeric (b : UInt8) : Bool :=
  let n := b.toNat
  (48 ≤ n && n ≤ 57) || (65 ≤ n && n ≤ 90) || (97 ≤ n && n ≤ 122)

/-- Membership of a byte in a list of ASCII characters. -/
def isOneOf (cs : List Char) (b : UInt8) : Bool := cs.any fun c => c.toNat == b.toNat

/-- A C0 control or DEL. -/
def isControl (b : UInt8) : Bool := b.toNat < 0x20 || b.toNat == 0x7F

theorem hexValue?_hexDigit : ∀ n : Fin 16, hexValue? (UInt8.ofNat (hexDigit n.val).toNat) = some n.val := by
  decide

end TwoStepLogin.Percent
