import TwoStepLogin.Text.Blank

/-!
# Content types

* `MediaType.parameters?` — the parameters behind a content type;
* `MediaType.byPlace` — where the value of a leading charset is looked for;
* `MediaType.charset?` — the first parameter that names a charset.
-/

set_option autoImplicit false

namespace TwoStepLogin.Host.MediaType

/-- A character of a name, or of a value without quotes. -/
def isToken (c : Char) : Bool :=
  c.isAlphanum || ['!', '#', '$', '%', '&', '\'', '*', '+', '-', '.', '^', '_', '\u0060', '|', '~'].contains c

/-- A character of a value in quotes. -/
def isQuotable (c : Char) : Bool := 0x20 ≤ c.toNat && c.toNat ≠ 0x7F

/-- A value in quotes, after the first of them; its first character may be a quote itself. -/
def quotedValue? : List Char → Option (List Char × List Char)
  | [] => none
  | first :: rest =>
    let value := rest.takeWhile (· != '"')
    match rest.dropWhile (· != '"') with
    | _ :: after => if (first :: value).all isQuotable then some (first :: value, after) else none
    | [] => none

/-- What follows a value in quotes: the end or a semicolon, after any number of blanks. -/
def afterQuoted? (cs : List Char) : Option (List Char) :=
  match cs.dropWhile (· == ' ') with
  | [] => some []
  | ';' :: rest => some rest
  | _ => none

/-- A value, and the parameters that follow it. -/
def value? (cs : List Char) : Option (List Char × List Char) :=
  match cs with
  | '"' :: inner => do
    let (value, after) ← quotedValue? inner
    some (value, ← afterQuoted? after)
  | _ =>
    let value := cs.takeWhile isToken
    match cs.dropWhile isToken with
    | [] => some (value, [])
    | ';' :: rest => if value.isEmpty then none else some (value, rest)
    | _ => none

/-- Parameters with at most the given number of steps. -/
def parametersIn? : Nat → List Char → Option (List (List Char × List Char))
  | _, [] => some []
  | 0, _ => none
  | fuel + 1, cs =>
    if cs.head? = some ' ' then parametersIn? fuel (cs.drop 1)
    else
      let name := cs.takeWhile isToken
      match cs.dropWhile isToken with
      | '=' :: rest =>
        if name.isEmpty then none
        else do
          let (value, after) ← value? rest
          some ((name, value) :: (← parametersIn? fuel after))
      | _ => none

/-- A first parameter that says UTF-8, one blank behind its semicolon, is known by its place. As soon as
others follow it, its value is taken from there: five characters behind the equals sign, a quote
counting as one of them. -/
def byPlace (cs : List Char) (parameters : List (List Char × List Char)) :
    List (List Char × List Char) :=
  match cs, parameters with
  | ' ' :: text, (name, value) :: next :: rest =>
    if text.head? ≠ some ' ' ∧ name.map Char.toLower = "charset".toList ∧
        value.map Char.toLower = "utf-8".toList then
      (name, (text.drop (name.length + 1)).take value.length) :: next :: rest
    else parameters
  | _, _ => parameters

/-- Names and values of parameters, none if they are malformed. -/
def parameters? (cs : List Char) : Option (List (List Char × List Char)) :=
  (parametersIn? cs.length cs).map (byPlace cs)

/-- The value of the first parameter that names a charset. -/
def charset? (parameters : List (List Char × List Char)) : Option (List Char) :=
  (parameters.find? fun parameter =>
    parameter.1.map Char.toLower == "charset".toList).map Prod.snd

end TwoStepLogin.Host.MediaType
