/-!
# UTF-8

* `Utf8.encodeChar`, `Utf8.encode` — characters as bytes;
* `Utf8.chunks` — bytes cut into characters and ill-formed parts, each ill-formed part as long as a
  prefix of some character can be;
* `Utf8.decode?` — strict reading, refuses ill-formed bytes;
* `Utf8.decodeLossy` — reading with U+FFFD in place of every ill-formed part.
-/

set_option autoImplicit false

namespace TwoStepLogin.Utf8

/-- The one to four bytes of a character. -/
def encodeChar (c : Char) : List UInt8 :=
  let n := c.toNat
  if n < 0x80 then [UInt8.ofNat n]
  else if n < 0x800 then [UInt8.ofNat (0xC0 + n / 64), UInt8.ofNat (0x80 + n % 64)]
  else if n < 0x10000 then
    [UInt8.ofNat (0xE0 + n / 4096), UInt8.ofNat (0x80 + n / 64 % 64), UInt8.ofNat (0x80 + n % 64)]
  else
    [UInt8.ofNat (0xF0 + n / 262144), UInt8.ofNat (0x80 + n / 4096 % 64),
     UInt8.ofNat (0x80 + n / 64 % 64), UInt8.ofNat (0x80 + n % 64)]

/-- The bytes of a sequence of characters. -/
def encode (cs : List Char) : List UInt8 := cs.flatMap encodeChar

/-- The bytes of a text. -/
def encodeString (s : String) : List UInt8 := encode s.toList

/-- A continuation byte. -/
def isContinuation (b : UInt8) : Bool := 0x80 ≤ b.toNat && b.toNat ≤ 0xBF

/-- The payload of a continuation byte. -/
def payload (b : UInt8) : Nat := b.toNat % 64

/-- Second bytes that may follow the first byte of a three-byte character. -/
def follows3 (a b : UInt8) : Bool :=
  if a.toNat = 0xE0 then 0xA0 ≤ b.toNat && b.toNat ≤ 0xBF
  else if a.toNat = 0xED then 0x80 ≤ b.toNat && b.toNat ≤ 0x9F
  else isContinuation b

/-- Second bytes that may follow the first byte of a four-byte character. -/
def follows4 (a b : UInt8) : Bool :=
  if a.toNat = 0xF0 then 0x90 ≤ b.toNat && b.toNat ≤ 0xBF
  else if a.toNat = 0xF4 then 0x80 ≤ b.toNat && b.toNat ≤ 0x8F
  else isContinuation b

/-- Characters in order, with `none` for each ill-formed part. -/
def chunks : List UInt8 → List (Option Char)
  | [] => []
  | a :: rest =>
    if a.toNat < 0x80 then some (Char.ofNat a.toNat) :: chunks rest
    else if 0xC2 ≤ a.toNat ∧ a.toNat ≤ 0xDF then
      match rest with
      | [] => [none]
      | b :: rest₁ =>
        if isContinuation b then
          some (Char.ofNat ((a.toNat - 0xC0) * 64 + payload b)) :: chunks rest₁
        else none :: chunks (b :: rest₁)
    else if 0xE0 ≤ a.toNat ∧ a.toNat ≤ 0xEF then
      match rest with
      | [] => [none]
      | b :: rest₁ =>
        if follows3 a b then
          match rest₁ with
          | [] => [none]
          | c :: rest₂ =>
            if isContinuation c then
              some (Char.ofNat ((a.toNat - 0xE0) * 4096 + payload b * 64 + payload c)) ::
                chunks rest₂
            else none :: chunks (c :: rest₂)
        else none :: chunks (b :: rest₁)
    else if 0xF0 ≤ a.toNat ∧ a.toNat ≤ 0xF4 then
      match rest with
      | [] => [none]
      | b :: rest₁ =>
        if follows4 a b then
          match rest₁ with
          | [] => [none]
          | c :: rest₂ =>
            if isContinuation c then
              match rest₂ with
              | [] => [none]
              | d :: rest₃ =>
                if isContinuation d then
                  some (Char.ofNat ((a.toNat - 0xF0) * 262144 + payload b * 4096 + payload c * 64 +
                    payload d)) :: chunks rest₃
                else none :: chunks (d :: rest₃)
            else none :: chunks (c :: rest₂)
        else none :: chunks (b :: rest₁)
    else none :: chunks rest

/-- Strict reading. -/
def decode? (bytes : List UInt8) : Option (List Char) := (chunks bytes).mapM id

/-- Strict reading of a text. -/
def decodeString? (bytes : List UInt8) : Option String := (decode? bytes).map String.ofList

/-- Stands for an ill-formed part. -/
def replacement : Char := Char.ofNat 0xFFFD

/-- Reading that never fails. -/
def decodeLossy (bytes : List UInt8) : List Char := (chunks bytes).map (·.getD replacement)

end TwoStepLogin.Utf8
