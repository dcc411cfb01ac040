import TwoStepLogin.Toml.Basic

/-!
# Numbers in TOML

A number is a word, possibly with a plus sign in front, and possibly continued by a point and a
second word, or by a plus sign and a third.

* `Toml.takeWord` — the word at the head of a text;
* `Toml.Numeral.run?` — digits with single underscores between them;
* `Toml.number?` — a number, given its first word.
-/

set_option autoImplicit false

namespace TwoStepLogin.Toml

/-- Characters of words: ASCII letters, digits, the dash and the underscore. -/
def isWordChar (c : Char) : Bool := c.isAlphanum || c == '-' || c == '_'

/-- The word at the head of a text, possibly empty. -/
def takeWord (cs : List Char) : List Char × List Char := cs.span isWordChar

namespace Numeral

/-- Value of a digit in the given base, at most sixteen. -/
def digit? (base : Nat) (c : Char) : Option Nat :=
  let n := c.toNat
  let value : Option Nat :=
    if 48 ≤ n ∧ n ≤ 57 then some (n - 48)
    else if 65 ≤ n ∧ n ≤ 70 then some (n - 55)
    else if 97 ≤ n ∧ n ≤ 102 then some (n - 87)
    else none
  value.bind fun d => if d < base then some d else none

/-- Where a run of digits stands: at its first digit, after a leading zero, after an underscore. -/
structure Place where
  first : Bool
  zero : Bool
  underscore : Bool

/-- The digits up to the first character that is none, and the text from there. -/
def runFrom? (base : Nat) (leadingZeros : Bool) :
    Place → List Char → Option (List Nat × List Char)
  | place, [] => if place.first || place.underscore then none else some ([], [])
  | place, c :: cs =>
    match digit? base c with
    | some d =>
      if d = 0 ∧ place.first then
        (runFrom? base leadingZeros ⟨false, true, place.underscore⟩ cs).map fun (ds, rest) =>
          (d :: ds, rest)
      else if !place.first && place.zero && !leadingZeros then none
      else
        (runFrom? base leadingZeros ⟨false, place.zero, false⟩ cs).map fun (ds, rest) =>
          (d :: ds, rest)
    | none =>
      if place.first || place.underscore then none
      else if c = '_' then runFrom? base leadingZeros ⟨false, place.zero, true⟩ cs
      else some ([], c :: cs)

/-- A run of digits. -/
def run? (base : Nat) (leadingZeros : Bool) (cs : List Char) : Option (List Nat × List Char) :=
  runFrom? base leadingZeros ⟨true, false, false⟩ cs

/-- A run of digits with an optional minus sign. -/
def signedRun? (leadingZeros : Bool) : List Char → Option (Bool × List Nat × List Char)
  | '-' :: cs => (run? 10 leadingZeros cs).map fun (ds, rest) => (true, ds, rest)
  | cs => (run? 10 leadingZeros cs).map fun (ds, rest) => (false, ds, rest)

/-- Value of digits, the first counting most. -/
def valueOf (base : Nat) (digits : List Nat) : Nat := digits.foldl (fun n d => base * n + d) 0

/-- A whole number, if it fits 64 bits with a sign. -/
def integer? (negative : Bool) (magnitude : Nat) : Option Value :=
  let i : Int := if negative then -(magnitude : Int) else magnitude
  if -9223372036854775808 ≤ i ∧ i ≤ 9223372036854775807 then some (.integer i) else none

/-- A word of digits in a base other than ten. -/
def based? (base : Nat) (digits : List Char) : Option Value :=
  match run? base true digits with
  | some (ds, []) => integer? false (valueOf base ds)
  | _ => none

/-- A word of decimal digits. -/
def decimal? (word : List Char) : Option Value :=
  match signedRun? false word with
  | some (negative, ds, []) => integer? negative (valueOf 10 ds)
  | _ => none

/-- A floating-point number from its parts, unless it lies beyond the range. -/
def real? (negative : Bool) (whole fraction : List Nat) (exponent : Int) : Option Value :=
  (Binary64.ofDecimal? (valueOf 10 (whole ++ fraction)) (exponent - fraction.length)).map fun x =>
    .real (.finite (if negative then x.neg else x))

/-- An exponent with its sign. -/
def signedValue (negative : Bool) (digits : List Nat) : Int :=
  if negative then -(valueOf 10 digits : Int) else valueOf 10 digits

/-- What follows the digits of a word: nothing, or a mark and an exponent, which may be a word of its
own after a plus sign. -/
def exponent? (suffix rest : List Char) : Option (Int × List Char) :=
  match suffix with
  | [] => some (0, rest)
  | c :: digits =>
    if c = 'e' ∨ c = 'E' then
      if digits.isEmpty then
        let (word, after) := takeWord (match rest with | '+' :: cs => cs | cs => cs)
        match run? 10 true word with
        | some (ds, []) => some (signedValue false ds, after)
        | _ => none
      else
        match signedRun? true digits with
        | some (negative, ds, []) => some (signedValue negative ds, rest)
        | _ => none
    else none

/-- A floating-point number without a point. -/
def plainReal? (word rest : List Char) : Option (Value × List Char) := do
  let (negative, whole, suffix) ← signedRun? false word
  let (exponent, after) ← exponent? suffix rest
  some (← real? negative whole [] exponent, after)

/-- A floating-point number, given the word before its point and the text after it. -/
def pointReal? (word rest : List Char) : Option (Value × List Char) := do
  let (negative, whole, suffix) ← signedRun? false word
  if suffix.isEmpty then
    let (second, rest) := takeWord rest
    let (fraction, suffix) ← run? 10 true second
    let (exponent, after) ← exponent? suffix rest
    some (← real? negative whole fraction exponent, after)
  else none

end Numeral

open Numeral in
/-- A number, given its first word and the text after it. -/
def number? (word rest : List Char) : Option (Value × List Char) :=
  match word with
  | '0' :: 'x' :: digits => (based? 16 digits).map fun v => (v, rest)
  | '0' :: 'o' :: digits => (based? 8 digits).map fun v => (v, rest)
  | '0' :: 'b' :: digits => (based? 2 digits).map fun v => (v, rest)
  | _ =>
    if word.contains 'e' || word.contains 'E' then plainReal? word rest
    else
      match rest with
      | '.' :: rest => pointReal? word rest
      | _ =>
        if word = ['i', 'n', 'f'] then some (.real (.infinity false), rest)
        else if word = ['-', 'i', 'n', 'f'] then some (.real (.infinity true), rest)
        else if word = ['n', 'a', 'n'] ∨ word = ['-', 'n', 'a', 'n'] then some (.real .nan, rest)
        else (decimal? word).map fun v => (v, rest)

end TwoStepLogin.Toml
