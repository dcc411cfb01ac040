import TwoStepLogin.Text.Blank
import TwoStepLogin.Text.Utf8

/-!
# A tree of files

* `FileTree` — files by paths that lead to them;
* `FileTree.placeOf` — where names lead, up and down;
* `FileTree.find?` — what a path leads to: a file or a directory;
* `FileTree.readText?` — the text of a file.

A tree has no links and no rights of access, and of directories it knows those that its paths pass. It
does not know either where the working directory lies: a file whose path begins at the root is not found
by a path from the working directory, nor the other way round.
-/

set_option autoImplicit false

namespace TwoStepLogin

/-- What a path can lead to. -/
inductive FileTree.Node where
  | file (bytes : List UInt8)
  | directory
  deriving DecidableEq, Repr

/-- Files by the names on paths that lead to them from the working directory, or from the root, which
is the name `/`. -/
structure FileTree where
  files : List (List String × List UInt8)
  deriving DecidableEq, Repr

namespace FileTree

/-- Name of the root. -/
def rootName : String := "/"

/-- Name that leads up from every directory. -/
def upName : String := ".."

/-- The names in a path. -/
def names (path : String) : List String :=
  let inner := ((Text.splitOn '/' path.toList).map String.ofList).filter fun name =>
    !name.isEmpty && name != "."
  if path.toList.head? = some '/' then rootName :: inner else inner

/-- A tree of files given by their paths. -/
def ofFiles (files : List (String × List UInt8)) : FileTree :=
  ⟨files.map fun file => (names file.1, file.2)⟩

/-- Whether a place is the working directory or lies above it. -/
def isAncestor (place : List String) : Bool := place.all fun name => name == upName

/-- The directory above a place. Those above the working directory have no other names than the one that
leads to them, and above the root is the root. -/
def above (place : List String) : List String :=
  if isAncestor place then place ++ [upName]
  else if place = [rootName] then place
  else place.dropLast

/-- Where a name leads from a place. -/
def onward (place : List String) (name : String) : List String :=
  if name = upName then above place else place ++ [name]

/-- Where names lead from the working directory. -/
def placeOf (names : List String) : List String := names.foldl onward []

/-- Whether names lead through a place to another one. -/
def passes (names place : List String) : Bool :=
  (List.range names.length).any fun count => placeOf (names.take count) = place

/-- What lies at a place. -/
def node? (tree : FileTree) (place : List String) : Option Node :=
  match tree.files.reverse.find? fun file => placeOf file.1 = place with
  | some file => some (.file file.2)
  | none =>
    if isAncestor place || tree.files.any fun file => passes file.1 place then some .directory
    else none

/-- Follow names from a place; only directories can be left. -/
def walk (tree : FileTree) : (place : List String) → List String → Option Node
  | place, [] => tree.node? place
  | place, name :: rest =>
    match tree.node? place with
    | some .directory => tree.walk (onward place name) rest
    | _ => none

/-- What a path leads to. -/
def find? (tree : FileTree) (path : String) : Option Node := tree.walk [] (names path)

/-- Whether a path leads anywhere. -/
def holds (tree : FileTree) (path : String) : Bool := (tree.find? path).isSome

/-- The text of a file; none for directories and for bytes that are no text. -/
def readText? (tree : FileTree) (path : String) : Option String :=
  match tree.find? path with
  | some (.file bytes) => Utf8.decodeString? bytes
  | _ => none

end FileTree

end TwoStepLogin
