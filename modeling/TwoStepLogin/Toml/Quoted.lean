/-!
# Quoted texts in TOML

Single quotes take the text as it is, double quotes allow escapes; three quotes let it go over
several lines, and a line break right after them does not count.

* `Toml.Quoted.body` — a text on one line, after its opening quote;
* `Toml.Quoted.longBody` — a text in triple quotes;
* `Toml.Quoted.read?` — either of them.
-/

set_option autoImplicit false

namespace TwoStepLogin.Toml.Quoted

/-- Characters that may stand in a text, the line break apart. -/
def isAllowed (c : Char) : Bool := c == '\t' || (0x20 ≤ c.toNat && c.toNat != 0x7F)

/-- The character for a one-letter escape. -/
def simpleEscape? (c : Char) : Option Char :=
  if c = '"' then some '"'
  else if c = '\\' then some '\\'
  else if c = 'b' then some (Char.ofNat 8)
  else if c = 'f' then some (Char.ofNat 12)
  else if c = 'n' then some '\n'
  else if c = 'r' then some '\r'
  else if c = 't' then some '\t'
  else none

/-- Value of a hexadecimal digit. -/
def hexDigit? (c : Char) : Option Nat :=
  let n := c.toNat
  if 48 ≤ n ∧ n ≤ 57 then some (n - 48)
  else if 65 ≤ n ∧ n ≤ 70 then some (n - 55)
  else if 97 ≤ n ∧ n ≤ 102 then some (n - 87)
  else none

/-- A number of so many hexadecimal digits. -/
def hexNumber? : (count : Nat) → Nat → List Char → Option (Nat × List Char)
  | 0, n, cs => some (n, cs)
  | _ + 1, _, [] => none
  | count + 1, n, c :: cs => (hexDigit? c).bind fun d => hexNumber? count (16 * n + d) cs

/-- A character by its number, in so many digits. -/
def numbered? (count : Nat) (cs : List Char) : Option (Char × List Char) :=
  (hexNumber? count 0 cs).bind fun (n, rest) =>
    if n < 0xD800 ∨ (0xDFFF < n ∧ n < 0x110000) then some (Char.ofNat n, rest) else none

/-- An escape, after the backslash. -/
def escape? : List Char → Option (Char × List Char)
  | [] => none
  | c :: cs =>
    if c = 'u' then numbered? 4 cs
    else if c = 'U' then numbered? 8 cs
    else (simpleEscape? c).map fun x => (x, cs)

/-- Space or tab. -/
def isSpace (c : Char) : Bool := c == ' ' || c == '\t'

/-- The text after a backslash that ends its line: line breaks and blanks are passed over. -/
def continuation? (cs : List Char) : Option (List Char) :=
  match cs.dropWhile isSpace with
  | [] => some []
  | '\n' :: rest => some (rest.dropWhile fun c => isSpace c || c == '\n')
  | _ => none

/-- A text on one line, up to its closing quote. -/
def body (quote : Char) (escapes : Bool) : Nat → List Char → Option (List Char × List Char)
  | 0, _ => none
  | _ + 1, [] => none
  | fuel + 1, c :: cs =>
    if c = quote then some ([], cs)
    else if c = '\\' ∧ escapes then
      match escape? cs with
      | some (x, rest) => (body quote escapes fuel rest).map fun (xs, after) => (x :: xs, after)
      | none => none
    else if isAllowed c then
      (body quote escapes fuel cs).map fun (xs, after) => (c :: xs, after)
    else none

/-- The end of a text in triple quotes, after the first closing quote: more quotes that belong to the
text, and what follows, if the text ends here. -/
def closing? (quote : Char) (cs : List Char) : Option (List Char × List Char) :=
  match cs with
  | a :: b :: rest =>
    if a = quote ∧ b = quote then
      match rest with
      | c :: d :: after =>
        if c = quote then
          if d = quote then some ([quote, quote], after) else some ([quote], d :: after)
        else some ([], rest)
      | [c] => if c = quote then some ([quote], []) else some ([], rest)
      | [] => some ([], [])
    else none
  | _ => none

/-- A text in triple quotes, up to the closing ones. -/
def longBody (quote : Char) (escapes : Bool) : Nat → List Char → Option (List Char × List Char)
  | 0, _ => none
  | _ + 1, [] => none
  | fuel + 1, c :: cs =>
    if c = quote then
      match closing? quote cs with
      | some ended => some ended
      | none => (longBody quote escapes fuel cs).map fun (xs, after) => (c :: xs, after)
    else if c = '\\' ∧ escapes then
      match cs with
      | [] => none
      | e :: _ =>
        if isSpace e || e == '\n' then
          match continuation? cs with
          | some rest => longBody quote escapes fuel rest
          | none => none
        else
          match escape? cs with
          | some (x, rest) =>
            (longBody quote escapes fuel rest).map fun (xs, after) => (x :: xs, after)
          | none => none
    else if isAllowed c || c == '\n' then
      (longBody quote escapes fuel cs).map fun (xs, after) => (c :: xs, after)
    else none

/-- A quoted text. -/
structure Read where
  text : String
  /-- It stands in triple quotes. -/
  long : Bool
  rest : List Char

/-- A text after its opening quote. -/
def after? (quote : Char) (escapes : Bool) (cs : List Char) : Option Read :=
  let short (rest : List Char) : Option Read :=
    (body quote escapes (rest.length + 1) rest).map fun (xs, after) =>
      ⟨String.ofList xs, false, after⟩
  match cs with
  | a :: b :: rest =>
    if a = quote ∧ b = quote then
      let content := match rest with | '\n' :: more => more | _ => rest
      (longBody quote escapes (content.length + 1) content).map fun (xs, after) =>
        ⟨String.ofList xs, true, after⟩
    else short cs
  | _ => short cs

/-- A quoted text at the head of a text. -/
def read? : List Char → Option Read
  | '"' :: cs => after? '"' true cs
  | '\'' :: cs => after? '\'' false cs
  | _ => none

end TwoStepLogin.Toml.Quoted
