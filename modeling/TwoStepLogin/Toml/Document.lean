import TwoStepLogin.Toml.Parser

/-!
# The tree of a TOML document

The sections of a document are put together by their paths. A header must not occur twice, unless
its brackets are doubled: then each occurrence starts a new element of an array. A key of a section
is no key of a header below it.

* `Toml.assemble?` — the table of the sections below a path;
* `Toml.parse?` — a whole document as one table.
-/

set_option autoImplicit false

namespace TwoStepLogin.Toml

/-- The first keys of the paths, each once, in order of first occurrence. -/
def firstKeys : List Section → List String
  | [] => []
  | s :: rest =>
    match s.path with
    | [] => firstKeys rest
    | key :: _ => key :: (firstKeys rest).filter fun other => other != key

/-- The sections below a key, with their paths from there. -/
def below (key : String) (sections : List Section) : List Section :=
  sections.filterMap fun s =>
    match s.path with
    | [] => none
    | first :: rest => if first = key then some { s with path := rest } else none

/-- Whether a section starts an element of an array that lives here. -/
def startsElement (s : Section) : Bool := s.isElement && s.path.isEmpty

/-- Cut the sections of an array into its elements; each begins with its own entries. -/
def elements : List Section → List (List Section)
  | [] => []
  | s :: rest =>
    match elements rest with
    | [] => [[s]]
    | next :: more =>
      match next with
      | [] => [s] :: more
      | first :: _ => if startsElement first then [s] :: next :: more else (s :: next) :: more

/-- The sections of an element, its first as that of a table. -/
def openElement : List Section → List Section
  | [] => []
  | s :: rest => { s with isElement := false } :: rest

/-- The entries of the section that has no path left; there may be one at most. -/
def ownEntries? (sections : List Section) : Option Entries :=
  match sections.filter fun s => s.path.isEmpty with
  | [] => some []
  | [s] => if s.isElement then none else some s.entries
  | _ => none

/-- The table of the sections. The depth bounds the length of their paths. -/
def assemble? : (depth : Nat) → List Section → Option Entries
  | 0, sections => ownEntries? sections
  | depth + 1, sections => do
    let own ← ownEntries? sections
    let inner ← (firstKeys sections).mapM fun key =>
      match below key sections with
      | [] => none
      | first :: rest =>
        if startsElement first then
          ((elements (first :: rest)).mapM fun element =>
            (assemble? depth (openElement element)).map fun entries =>
              Value.table false entries).map fun items => (key, Value.array items)
        else
          (assemble? depth (first :: rest)).map fun entries => (key, Value.table false entries)
    if inner.any fun e => hasKey e.1 own then none else some (own ++ inner)

/-- The length of the longest path. -/
def depthOf (sections : List Section) : Nat :=
  sections.foldl (fun n s => max n s.path.length) 0

/-- A whole document as one table. -/
def parse? (text : String) : Option Value :=
  (sections? text).bind fun sections =>
    (assemble? (depthOf sections) sections).map fun entries => .table false entries

end TwoStepLogin.Toml
