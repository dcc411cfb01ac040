import TwoStepLogin.Unicode.CombiningClass
import TwoStepLogin.Unicode.Direction
import TwoStepLogin.Unicode.Joining

/-!
# Labels of host names

A label is the part of a host name between two dots. Letters of all scripts may stand in it, but it
has to be written in one direction, and it may not hold what could not be seen.

* `Label.joinersStand` — characters that join or part others stand where they can be seen;
* `Label.isDirected` — the label is written in one direction;
* `Label.turns` — a label that demands one direction of every label of the name;
* `Label.isReadable` — a label that starts with no mark and whose joiners stand well.
-/

set_option autoImplicit false

namespace TwoStepLogin.Web.Label

open Unicode

/-- The character that joins its neighbours. -/
def joiner : Char := '\u200D'

/-- The character that parts its neighbours. -/
def nonJoiner : Char := '\u200C'

/-- Whether a parting character parts two letters that would be joined: the characters before it are
in reversed order, and marks do not count. -/
def partsLetters (before after : List Char) : Bool :=
  ((before.dropWhile isTransparent).head?.any joinsNext) &&
    ((after.dropWhile isTransparent).head?.any joinsPrevious)

/-- Whether all joining and parting characters stand where they can be seen: behind a mark that
joins letters, or, to part them, between letters. The characters before are in reversed order. -/
def joinersStandAfter (before : List Char) : List Char → Bool
  | [] => true
  | c :: rest =>
    (if c = joiner then before.head?.any isVirama
      else if c = nonJoiner then before.head?.any isVirama || partsLetters before rest
      else true) && joinersStandAfter (c :: before) rest

/-- Whether all joining and parting characters stand where they can be seen. -/
def joinersStand (label : List Char) : Bool := joinersStandAfter [] label

/-- The direction of the last character that is no mark. -/
def lastDirection? (label : List Char) : Option Direction :=
  ((label.map direction).reverse.dropWhile (· == .mark)).head?

/-- Directions that may occur in a label that starts on the right. -/
def rightward : List Direction := [.right, .arabicNumber, .europeanNumber, .neutral, .mark]

/-- Directions that may occur in a label that starts on the left. -/
def leftward : List Direction := [.left, .europeanNumber, .neutral, .mark]

/-- Whether a label is written in one direction: that of its first character. Numbers may end it,
and numbers of two kinds do not stand in one label. -/
def isDirected (label : List Char) : Bool :=
  let directions := label.map direction
  match directions.head? with
  | none => true
  | some .right =>
    directions.all rightward.contains &&
      (lastDirection? label).any [.right, .europeanNumber, .arabicNumber].contains &&
      !(directions.contains .europeanNumber && directions.contains .arabicNumber)
  | some .left =>
    directions.all leftward.contains &&
      (lastDirection? label).any [.left, .europeanNumber].contains
  | some _ => false

/-- Whether a label has characters that are written from the right. -/
def turns (label : List Char) : Bool :=
  label.any fun c => direction c == .right || direction c == .arabicNumber

/-- Whether a label can be read: it starts with no mark, and its joiners can be seen. -/
def isReadable (label : List Char) : Bool := !(label.head?.any isMark) && joinersStand label

end TwoStepLogin.Web.Label
