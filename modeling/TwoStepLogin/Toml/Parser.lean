import TwoStepLogin.Toml.Number
import TwoStepLogin.Toml.Quoted

/-!
# Reading TOML

A document is a sequence of lines: blank ones, headers, and keys with values. Values may go over
several lines inside brackets and triple quotes.

* `Toml.Parser.key?`, `Toml.Parser.path?` — keys, and keys joined by dots;
* `Toml.Parser.value`, `items`, `members` — values;
* `Toml.Parser.header?` — the path of a header;
* `Toml.sections?` — all sections of a document.
-/

set_option autoImplicit false

namespace TwoStepLogin.Toml

namespace Parser

open Toml.Quoted (isSpace)

/-- Pass over spaces and tabs. -/
def skipSpace (cs : List Char) : List Char := cs.dropWhile isSpace

/-- Characters that may stand in a comment. -/
def isComment (c : Char) : Bool := c == '\t' || 0x20 ≤ c.toNat

/-- The text after the end of a line: an optional comment, then a line break or the end of all. -/
def endOfLine? (cs : List Char) : Option (List Char) :=
  let rest :=
    match skipSpace cs with
    | '#' :: more => more.dropWhile isComment
    | more => more
  match rest with
  | [] => some []
  | '\n' :: after => some after
  | _ => none

/-- Pass over blanks, comments and line breaks; a comment must reach the end of its line. -/
def skipLines : Nat → List Char → Option (List Char)
  | 0, _ => none
  | fuel + 1, cs =>
    match skipSpace cs with
    | '\n' :: rest => skipLines fuel rest
    | '#' :: rest =>
      match rest.dropWhile isComment with
      | [] => some []
      | '\n' :: after => skipLines fuel after
      | _ => none
    | rest => some rest

/-- One key: a word, or a quoted text on one line. -/
def key? (cs : List Char) : Option (String × List Char) :=
  match cs with
  | '"' :: _ | '\'' :: _ =>
    match Quoted.read? cs with
    | some read => if read.long then none else some (read.text, read.rest)
    | none => none
  | _ =>
    let (word, rest) := takeWord cs
    if word.isEmpty then none else some (String.ofList word, rest)

/-- Keys joined by dots, blanks around the dots allowed. -/
def path? : Nat → List Char → Option (List String × List Char)
  | 0, _ => none
  | fuel + 1, cs =>
    match key? (skipSpace cs) with
    | none => none
    | some (key, rest) =>
      match skipSpace rest with
      | '.' :: more => (path? fuel more).map fun (keys, after) => (key :: keys, after)
      | after => some ([key], after)

/-- A value that starts with a word or a plus sign. -/
def scalar? (cs : List Char) : Option (Value × List Char) :=
  match cs with
  | '+' :: rest =>
    let (word, after) := takeWord rest
    if word.isEmpty then none else number? word after
  | _ =>
    match takeWord cs with
    | ([], _) => none
    | (first :: word, rest) =>
      if first :: word = ['t', 'r', 'u', 'e'] then some (.boolean true, rest)
      else if first :: word = ['f', 'a', 'l', 's', 'e'] then some (.boolean false, rest)
      else if first :: word = ['i', 'n', 'f'] ∨ first :: word = ['n', 'a', 'n'] ∨ first = '-' ∨
          first.isDigit then number? (first :: word) rest
      else none

mutual

/-- A value. -/
def value : Nat → List Char → Option (Value × List Char)
  | 0, _ => none
  | fuel + 1, cs =>
    match cs with
    | '"' :: _ | '\'' :: _ => (Quoted.read? cs).map fun read => (.string read.text, read.rest)
    | '{' :: rest =>
      match skipSpace rest with
      | '}' :: after => some (.table false [], after)
      | rest => (members fuel [] rest).map fun (entries, after) => (.table false entries, after)
    | '[' :: rest => (items fuel rest).map fun (vs, after) => (.array vs, after)
    | _ => scalar? cs

/-- Values separated by commas, up to the closing bracket; a last comma is allowed. -/
def items : Nat → List Char → Option (List Value × List Char)
  | 0, _ => none
  | fuel + 1, cs =>
    match skipLines (cs.length + 1) cs with
    | none => none
    | some (']' :: after) => some ([], after)
    | some rest =>
      match value fuel rest with
      | none => none
      | some (v, rest) =>
        match skipLines (rest.length + 1) rest with
        | some (',' :: more) => (items fuel more).map fun (vs, after) => (v :: vs, after)
        | some (']' :: after) => some ([v], after)
        | _ => none

/-- Entries separated by commas, up to the closing brace, all on one line. -/
def members : Nat → Entries → List Char → Option (Entries × List Char)
  | 0, _, _ => none
  | fuel + 1, entries, cs =>
    match path? (cs.length + 1) cs with
    | some (path, '=' :: rest) =>
      match value fuel (skipSpace rest) with
      | none => none
      | some (v, rest) =>
        match addAt path v entries with
        | none => none
        | some entries =>
          match skipSpace rest with
          | '}' :: after => some (entries, after)
          | ',' :: more => members fuel entries more
          | _ => none
    | _ => none

end

/-- The path of a header, after its opening bracket, and whether brackets are doubled. -/
def header? (cs : List Char) : Option (Section × List Char) :=
  let (isElement, cs) := match cs with | '[' :: rest => (true, rest) | _ => (false, cs)
  match path? (cs.length + 1) cs with
  | some (path, ']' :: rest) =>
    let closed :=
      if isElement then match rest with | ']' :: more => some more | _ => none
      else some rest
    (closed.bind endOfLine?).map fun after => (⟨path, isElement, []⟩, after)
  | _ => none

/-- Sections from here on; the first takes the entries up to the next header. -/
def sections : Nat → Section → List Char → Option (List Section)
  | 0, _, _ => none
  | fuel + 1, current, cs =>
    match skipLines (cs.length + 1) cs with
    | none => none
    | some [] => some [current]
    | some ('[' :: rest) =>
      match header? rest with
      | none => none
      | some (next, after) => (sections fuel next after).map (current :: ·)
    | some rest =>
      match path? (rest.length + 1) rest with
      | some (path, '=' :: more) =>
        match value (more.length + 1) (skipSpace more) with
        | none => none
        | some (v, more) =>
          match endOfLine? more, addAt path v current.entries with
          | some after, some entries => sections fuel { current with entries := entries } after
          | _, _ => none
      | _ => none

end Parser

/-- Every carriage return before a line feed is dropped. -/
def foldLineEnds : List Char → List Char
  | '\r' :: '\n' :: cs => '\n' :: foldLineEnds cs
  | c :: cs => c :: foldLineEnds cs
  | [] => []

/-- The text without a byte order mark in front. -/
def dropMark : List Char → List Char
  | '\uFEFF' :: cs => cs
  | cs => cs

/-- The sections of a document; the first has no header. -/
def sections? (text : String) : Option (List Section) :=
  let cs := foldLineEnds (dropMark text.toList)
  Parser.sections (cs.length + 1) ⟨[], false, []⟩ cs

end TwoStepLogin.Toml
