import TwoStepLogin.Unicode.CombiningClass
import TwoStepLogin.Unicode.Composite

/-!
# Composed form

One text can be written in several ways: a letter with its mark as one character or as two, and
marks of different classes in any order. The composed form is one of them.

* `Unicode.decomposed` — all characters taken apart;
* `Unicode.sorted` — marks in the order of their classes, of one class as they came;
* `Unicode.composed` — letters put together with the marks that follow them;
* `Unicode.normal` — the composed form of a text.
-/

set_option autoImplicit false

namespace TwoStepLogin.Unicode

/-- What a character is composed of, by a number of steps. -/
def parts : Nat → Char → List Char
  | 0, c => [c]
  | steps + 1, c =>
    match decompose? c with
    | none => [c]
    | some (first, second) => parts steps first ++ [second]

/-- All characters taken apart; no character is composed in more than four steps. -/
def decomposed (cs : List Char) : List Char := cs.flatMap (parts 4)

/-- Put a character behind others, which stand in reversed order, but before marks of a greater
class. -/
def place (c : Char) : List Char → List Char
  | [] => [c]
  | d :: before =>
    if 0 < combiningClass c ∧ combiningClass c < combiningClass d then d :: place c before
    else c :: d :: before

/-- Marks in the order of their classes. -/
def sorted (cs : List Char) : List Char := (cs.foldl (fun before c => place c before) []).reverse

/-- Put the characters that follow together with a letter, as long as no mark of their class stands
between; the marks that have been passed are in reversed order. -/
def composeWith (letter : Char) (passed : List Char) : List Char → List Char
  | [] => letter :: passed.reverse
  | c :: rest =>
    let free := passed.head?.all fun d => combiningClass d < combiningClass c
    match if free then compose? letter c else none with
    | some joined => composeWith joined passed rest
    | none =>
      if combiningClass c = 0 then letter :: passed.reverse ++ composeWith c [] rest
      else composeWith letter (c :: passed) rest

/-- Letters put together with the marks that follow them. -/
def composed : List Char → List Char
  | [] => []
  | c :: rest => if combiningClass c = 0 then composeWith c [] rest else c :: composed rest

/-- The composed form of a text. -/
def normal (cs : List Char) : List Char := composed (sorted (decomposed cs))

end TwoStepLogin.Unicode
