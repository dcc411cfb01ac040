/-!
# Codes

Bytes stand for characters in many ways, but in most of them from left to right: a byte and some of
those after it stand for a character, and what follows is read in the same way.

* `Code` — what the first of some bytes stands for;
* `Code.decode?` — the characters of bytes, none if the bytes are malformed;
* `Code.ofSingle` — a code in which every byte stands for a character of its own.
-/

set_option autoImplicit false

namespace TwoStepLogin.Charset

/-- The characters that a byte begins, given the bytes after it, and how many of those belong to
them. -/
abbrev Code := Nat → List Nat → Option (List Char × Nat)

/-- The characters of bytes. -/
def Code.decode? (code : Code) : List Nat → Option (List Char)
  | [] => some []
  | b :: rest =>
    match code b rest with
    | none => none
    | some (cs, more) => (Code.decode? code (rest.drop more)).map fun others => cs ++ others
termination_by bytes => bytes.length
decreasing_by simp only [List.length_drop, List.length_cons]; omega

/-- Every byte stands for a character of its own. -/
def Code.ofSingle (char? : Nat → Option Char) : Code := fun b _ => (char? b).map fun c => ([c], 0)

end TwoStepLogin.Charset
