import TwoStepLogin.Charset.Code
import TwoStepLogin.Charset.Jis.Standard
import TwoStepLogin.Charset.Jis.Supplement

/-!
# Japanese charsets

The same characters are written in three ways: as bytes of the upper half, as pairs that leave room
for syllables of half width, and as ASCII between sequences that change the meaning of what follows.

* `Japanese.extended` — pairs and triples of bytes of the upper half;
* `Japanese.shifted` — pairs whose first bytes leave out the syllables of half width;
* `Japanese.decodeEscaped?` — the characters of bytes with escape sequences.
-/

set_option autoImplicit false

namespace TwoStepLogin.Charset.Japanese

/-- A syllable of half width, by its number. -/
def halfWidth (number : Nat) : Char := Char.ofNat (0xFF61 + number)

/-- The character in a cell of 94 rows and columns, which are counted from the given byte on. -/
def cell? (chart : Text.Chart) (start row column : Nat) : Option Char :=
  if start ≤ row ∧ row ≤ start + 93 ∧ start ≤ column ∧ column ≤ start + 93 then
    chart.at? ((row - start) * 94 + (column - start))
  else none

/-- A syllable of half width behind 0x8E, a supplementary character behind 0x8F, and standard
characters. -/
def extended : Code := fun b rest =>
  if b < 0x80 then some ([Char.ofNat b], 0)
  else if b = 0x8E then
    match rest with
    | k :: _ => if 0xA1 ≤ k ∧ k ≤ 0xDF then some ([halfWidth (k - 0xA1)], 1) else none
    | [] => none
  else if b = 0x8F then
    match rest with
    | row :: column :: _ => (cell? Jis.supplement 0xA1 row column).map fun c => ([c], 2)
    | _ => none
  else
    match rest with
    | column :: _ => (cell? Jis.standard 0xA1 b column).map fun c => ([c], 1)
    | [] => none

/-- The number of a pair of bytes: 188 for each first byte, of which those of the syllables of half
width are left out. -/
def pairNumber? (first second : Nat) : Option Nat :=
  if ((0x81 ≤ first ∧ first ≤ 0x9F) ∨ (0xE0 ≤ first ∧ first ≤ 0xFC)) ∧
      ((0x40 ≤ second ∧ second ≤ 0x7E) ∨ (0x80 ≤ second ∧ second ≤ 0xFC)) then
    some ((first - if first < 0xA0 then 0x81 else 0xC1) * 188 +
      (second - if second < 0x7F then 0x40 else 0x41))
  else none

/-- The character of a number; some numbers have no public meaning. -/
def numbered? (number : Nat) : Option Char :=
  if 8836 ≤ number ∧ number ≤ 10715 then some (Char.ofNat (0xE000 + (number - 8836)))
  else Jis.standard.at? number

/-- Single bytes for ASCII and syllables of half width, pairs for all others. -/
def shifted : Code := fun b rest =>
  if b ≤ 0x80 then some ([Char.ofNat b], 0)
  else if 0xA1 ≤ b ∧ b ≤ 0xDF then some ([halfWidth (b - 0xA1)], 0)
  else
    match rest with
    | second :: _ => ((pairNumber? b second).bind numbered?).map fun c => ([c], 1)
    | [] => none

/-- What the bytes stand for until the next escape sequence. -/
inductive Meaning where
  | ascii
  /-- ASCII with a sign of money and an overline. -/
  | roman
  | syllables
  /-- Pairs for standard characters. -/
  | pairs
  deriving DecidableEq, Repr

/-- The meaning that an escape sequence gives to what follows. -/
def Meaning.ofEscape? : Nat → Nat → Option Meaning
  | 0x28, 0x42 => some .ascii
  | 0x28, 0x4A => some .roman
  | 0x28, 0x49 => some .syllables
  | 0x24, 0x40 => some .pairs
  | 0x24, 0x42 => some .pairs
  | _, _ => none

/-- The character of a single byte, none for a byte that is read otherwise. -/
def Meaning.char? (m : Meaning) (b : Nat) : Option Char :=
  let plain? := if b < 0x80 ∧ b ≠ 0x0E ∧ b ≠ 0x0F ∧ b ≠ 0x1B then some (Char.ofNat b) else none
  match m with
  | .ascii => plain?
  | .roman => if b = 0x5C then some '\u00A5' else if b = 0x7E then some '\u203E' else plain?
  | .syllables => if 0x21 ≤ b ∧ b ≤ 0x5F then some (halfWidth (b - 0x21)) else none
  | .pairs => none

/-- The characters of bytes with escape sequences; an escape sequence right behind another one is
malformed. -/
def decodeEscaped? (m : Meaning) (afterEscape : Bool) : List Nat → Option (List Char)
  | [] => some []
  | 0x1B :: a :: b :: rest =>
    if afterEscape then none
    else
      match Meaning.ofEscape? a b with
      | none => none
      | some next => decodeEscaped? next true rest
  | b :: rest =>
    match m.char? b with
    | some c => (decodeEscaped? m false rest).map fun cs => c :: cs
    | none =>
      match m, rest with
      | .pairs, column :: rest₁ =>
        match cell? Jis.standard 0x21 b column with
        | some c => (decodeEscaped? m false rest₁).map fun cs => c :: cs
        | none => none
      | _, _ => none

end TwoStepLogin.Charset.Japanese
