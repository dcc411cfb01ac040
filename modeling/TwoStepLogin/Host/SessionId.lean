import TwoStepLogin.Text.Percent

/-!
# Identifiers of sessions

* `SessionId.ofBytes` — sixteen random bytes as an identifier: thirty-two digits in five groups, of
  which six bits are fixed.
-/

set_option autoImplicit false

namespace TwoStepLogin.Host.SessionId

/-- A byte as two digits in lower case. -/
def digits (b : UInt8) : List Char :=
  [Percent.hexDigit (b.toNat / 16), Percent.hexDigit (b.toNat % 16)].map Char.toLower

/-- The fixed bits of the byte at a position. -/
def fix (position : Nat) (b : UInt8) : UInt8 :=
  if position = 6 then UInt8.ofNat (0x40 + b.toNat % 16)
  else if position = 8 then UInt8.ofNat (0x80 + b.toNat % 64)
  else b

/-- Whether a dash stands before the byte at a position. -/
def isGroupStart (position : Nat) : Bool := [4, 6, 8, 10].contains position

/-- Random bytes as an identifier. -/
def ofBytes (bytes : List UInt8) : String :=
  String.ofList (bytes.zipIdx.flatMap fun (b, position) =>
    (if isGroupStart position then ['-'] else []) ++ digits (fix position b))

end TwoStepLogin.Host.SessionId
