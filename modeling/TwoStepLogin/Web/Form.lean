import TwoStepLogin.Text.Blank
import TwoStepLogin.Text.Percent

/-!
# Form fields

Names and values in one line of ASCII: pairs joined by `&`, name and value by `=`, a space written as
`+`, and all bytes but letters, digits and `*-._` as escapes.

* `Form.encode` — pairs to text;
* `Form.decode` — bytes to pairs; it never fails;
* `Form.decode_append` — an ampersand separates pairs.
-/

set_option autoImplicit false

namespace TwoStepLogin.Web.Form

/-- Bytes that stand for themselves. -/
def isPlain (b : UInt8) : Bool := Percent.isAlphanumeric b || Percent.isOneOf ['*', '-', '.', '_'] b

/-- A byte as characters. -/
def encodeByte (b : UInt8) : List Char := if b = 32 then ['+'] else Percent.encodeByte isPlain b

/-- A text as characters. -/
def encodeText (s : String) : List Char := (Utf8.encodeString s).flatMap encodeByte

/-- A name and its value. -/
def encodePair (pair : String × String) : List Char :=
  encodeText pair.1 ++ '=' :: encodeText pair.2

/-- Pairs in order. -/
def encode (pairs : List (String × String)) : List Char :=
  ['&'].intercalate (pairs.map encodePair)

/-- A plus sign stands for a space. -/
def unplus (b : UInt8) : UInt8 := if b = 43 then 32 else b

/-- The text that the bytes stand for. -/
def decodeText (bytes : List UInt8) : String :=
  String.ofList (Utf8.decodeLossy (Percent.decode (bytes.map unplus)))

/-- The bytes before and after the first equals sign; all and none if there is none. -/
def splitPair (bytes : List UInt8) : List UInt8 × List UInt8 :=
  (bytes.takeWhile (· != 61), (bytes.dropWhile (· != 61)).drop 1)

/-- A name and its value. -/
def decodePair (bytes : List UInt8) : String × String :=
  (decodeText (splitPair bytes).1, decodeText (splitPair bytes).2)

/-- Bytes cut at every ampersand. -/
def splitPairs : List UInt8 → List (List UInt8)
  | [] => [[]]
  | b :: bs =>
    if b = 38 then [] :: splitPairs bs
    else
      match splitPairs bs with
      | [] => [[b]]
      | part :: parts => (b :: part) :: parts

/-- Pairs in order; empty parts are passed over. -/
def decode (bytes : List UInt8) : List (String × String) :=
  ((splitPairs bytes).filter fun part => !part.isEmpty).map decodePair

/-- Pairs of a text. -/
def decodeString (s : String) : List (String × String) := decode (Utf8.encodeString s)

theorem splitPairs_ne_nil (bytes : List UInt8) : splitPairs bytes ≠ [] := by
  cases bytes with
  | nil => simp [splitPairs]
  | cons b bs =>
    unfold splitPairs
    split
    · simp
    · split <;> simp

/-- An ampersand separates what stands before it from what follows. -/
theorem splitPairs_append (before after : List UInt8) :
    splitPairs (before ++ 38 :: after) = splitPairs before ++ splitPairs after := by
  induction before with
  | nil => simp [splitPairs]
  | cons b bs ih =>
    simp only [List.cons_append, splitPairs]
    split
    · simp [ih]
    · rw [ih]
      cases h : splitPairs bs with
      | nil => exact absurd h (splitPairs_ne_nil bs)
      | cons part parts => simp

theorem decode_append (before after : List UInt8) :
    decode (before ++ 38 :: after) = decode before ++ decode after := by
  simp [decode, splitPairs_append]

end TwoStepLogin.Web.Form
