import TwoStepLogin.Json.Numeral
import TwoStepLogin.Text.Percent

/-!
# Reading JSON

* `Json.Parser.stringBody` — the characters of a string after its opening quote;
* `Json.Parser.value` — a value and the text after it; containers may nest `depthLimit` deep;
* `Json.parse?` — a whole text as one value;
* `Json.Parser.skip` — passes over a value, checking its grammar only.

Recursion is on a fuel that never runs out when it exceeds the length of the text.
-/

set_option autoImplicit false

namespace TwoStepLogin.Json

namespace Parser

/-- How deep arrays and objects may nest. -/
def depthLimit : Nat := 127

/-- White space between tokens. -/
def isSpace (c : Char) : Bool := c = ' ' || c = '\n' || c = '\t' || c = '\r'

/-- The text after leading white space. -/
def skipSpace (cs : List Char) : List Char := cs.dropWhile isSpace

/-- Value of a hexadecimal digit. -/
def hexDigit? (c : Char) : Option Nat :=
  if c.toNat < 128 then Percent.hexValue? (UInt8.ofNat c.toNat) else none

/-- The number written by four hexadecimal digits. -/
def hex4? : List Char → Option (Nat × List Char)
  | a :: b :: c :: d :: rest => do
    let x ← hexDigit? a
    let y ← hexDigit? b
    let z ← hexDigit? c
    let w ← hexDigit? d
    some (x * 4096 + y * 256 + z * 16 + w, rest)
  | _ => none

/-- The character of a one-letter escape. -/
def simpleEscape? : Char → Option Char
  | '"' => some '"'
  | '\\' => some '\\'
  | '/' => some '/'
  | 'b' => some (Char.ofNat 8)
  | 'f' => some (Char.ofNat 12)
  | 'n' => some '\n'
  | 'r' => some '\r'
  | 't' => some '\t'
  | _ => none

/-- The character of a `\u` escape, after the letter; a high surrogate takes the low one with it. -/
def unicodeEscape? (cs : List Char) : Option (Char × List Char) :=
  match hex4? cs with
  | none => none
  | some (n, rest) =>
    if 0xDC00 ≤ n ∧ n ≤ 0xDFFF then none
    else if 0xD800 ≤ n ∧ n ≤ 0xDBFF then
      match rest with
      | '\\' :: 'u' :: rest' =>
        match hex4? rest' with
        | some (m, rest'') =>
          if 0xDC00 ≤ m ∧ m ≤ 0xDFFF then
            some (Char.ofNat (0x10000 + (n - 0xD800) * 1024 + (m - 0xDC00)), rest'')
          else none
        | none => none
      | _ => none
    else some (Char.ofNat n, rest)

/-- The characters up to the closing quote, and the text after it. -/
def stringBody : Nat → List Char → Option (List Char × List Char)
  | 0, _ => none
  | _ + 1, [] => none
  | fuel + 1, c :: cs =>
    if c = '"' then some ([], cs)
    else if c = '\\' then
      match cs with
      | [] => none
      | e :: rest =>
        match (if e = 'u' then unicodeEscape? rest else (simpleEscape? e).map fun x => (x, rest)) with
        | some (x, rest') => (stringBody fuel rest').map fun (xs, after) => (x :: xs, after)
        | none => none
    else if c.toNat < 0x20 then none
    else (stringBody fuel cs).map fun (xs, after) => (c :: xs, after)

/-- A string after its opening quote, as text. -/
def text (cs : List Char) : Option (String × List Char) :=
  (stringBody (cs.length + 1) cs).map fun (xs, after) => (String.ofList xs, after)

/-- Drop a word from the head of a text. -/
def word? (w : List Char) (cs : List Char) : Option (List Char) :=
  if w.isPrefixOf cs then some (cs.drop w.length) else none

mutual

/-- A value, after optional white space. -/
def value : Nat → Nat → List Char → Option (Json × List Char)
  | 0, _, _ => none
  | fuel + 1, depth, cs =>
    match skipSpace cs with
    | '"' :: rest => (text rest).map fun (s, after) => (.string s, after)
    | '[' :: rest =>
      match depth with
      | 0 => none
      | depth + 1 =>
        match skipSpace rest with
        | ']' :: after => some (.array [], after)
        | _ => (items fuel depth rest).map fun (xs, after) => (.array xs, after)
    | '{' :: rest =>
      match depth with
      | 0 => none
      | depth + 1 =>
        match skipSpace rest with
        | '}' :: after => some (.object [], after)
        | _ => (members fuel depth rest).map fun (ms, after) => (ofMembers ms, after)
    | 'n' :: rest => (word? ['u', 'l', 'l'] rest).map fun after => (.null, after)
    | 't' :: rest => (word? ['r', 'u', 'e'] rest).map fun after => (.boolean true, after)
    | 'f' :: rest => (word? ['a', 'l', 's', 'e'] rest).map fun after => (.boolean false, after)
    | cs' =>
      match Numeral.read? cs' with
      | some (numeral, after) => numeral.toNumber?.map fun n => (.number n, after)
      | none => none

/-- One or more values separated by commas, up to the closing bracket. -/
def items : Nat → Nat → List Char → Option (List Json × List Char)
  | 0, _, _ => none
  | fuel + 1, depth, cs =>
    match value fuel depth cs with
    | none => none
    | some (x, rest) =>
      match skipSpace rest with
      | ']' :: after => some ([x], after)
      | ',' :: rest' => (items fuel depth rest').map fun (xs, after) => (x :: xs, after)
      | _ => none

/-- One or more members separated by commas, up to the closing brace. -/
def members : Nat → Nat → List Char → Option (List (String × Json) × List Char)
  | 0, _, _ => none
  | fuel + 1, depth, cs =>
    match skipSpace cs with
    | '"' :: rest =>
      match text rest with
      | none => none
      | some (name, rest) =>
        match skipSpace rest with
        | ':' :: rest =>
          match value fuel depth rest with
          | none => none
          | some (x, rest) =>
            match skipSpace rest with
            | '}' :: after => some ([(name, x)], after)
            | ',' :: rest' =>
              (members fuel depth rest').map fun (ms, after) => ((name, x) :: ms, after)
            | _ => none
        | _ => none
    | _ => none

end

/-- Pass over the characters of a string; escapes are checked for their form, not their value. -/
def skipString : List Char → Option (List Char)
  | [] => none
  | '"' :: after => some after
  | '\\' :: 'u' :: a :: b :: c :: d :: rest =>
    if (hexDigit? a).isSome && (hexDigit? b).isSome && (hexDigit? c).isSome && (hexDigit? d).isSome
    then skipString rest
    else none
  | '\\' :: e :: rest => if (simpleEscape? e).isSome then skipString rest else none
  | c :: rest => if c.toNat < 0x20 || c = '\\' then none else skipString rest

mutual

/-- Pass over a value of any depth, after optional white space. -/
def skip : Nat → List Char → Option (List Char)
  | 0, _ => none
  | fuel + 1, cs =>
    match skipSpace cs with
    | '"' :: rest => skipString rest
    | '[' :: rest =>
      match skipSpace rest with
      | ']' :: after => some after
      | _ => skipItems fuel rest
    | '{' :: rest =>
      match skipSpace rest with
      | '}' :: after => some after
      | _ => skipMembers fuel rest
    | 'n' :: rest => word? ['u', 'l', 'l'] rest
    | 't' :: rest => word? ['r', 'u', 'e'] rest
    | 'f' :: rest => word? ['a', 'l', 's', 'e'] rest
    | cs' => (Numeral.read? cs').map (·.2)

/-- Pass over values separated by commas, up to the closing bracket. -/
def skipItems : Nat → List Char → Option (List Char)
  | 0, _ => none
  | fuel + 1, cs =>
    match skip fuel cs with
    | none => none
    | some rest =>
      match skipSpace rest with
      | ']' :: after => some after
      | ',' :: rest' => skipItems fuel rest'
      | _ => none

/-- Pass over members separated by commas, up to the closing brace. -/
def skipMembers : Nat → List Char → Option (List Char)
  | 0, _ => none
  | fuel + 1, cs =>
    match skipSpace cs with
    | '"' :: rest =>
      match skipString rest with
      | none => none
      | some rest =>
        match skipSpace rest with
        | ':' :: rest =>
          match skip fuel rest with
          | none => none
          | some rest =>
            match skipSpace rest with
            | '}' :: after => some after
            | ',' :: rest' => skipMembers fuel rest'
            | _ => none
        | _ => none
    | _ => none

end

/-- Fuel that suffices for a text. -/
def fuelFor (cs : List Char) : Nat := 2 * cs.length + 2

end Parser

/-- A whole text as one value, white space around it allowed. -/
def parseChars? (cs : List Char) : Option Json :=
  match Parser.value (Parser.fuelFor cs) Parser.depthLimit cs with
  | some (v, rest) => if (Parser.skipSpace rest).isEmpty then some v else none
  | none => none

/-- A whole text as one value. -/
def parse? (s : String) : Option Json := parseChars? s.toList

end TwoStepLogin.Json
