import TwoStepLogin.Effect.Log
import TwoStepLogin.Text.Blank

/-!
# Log specifications

A specification is a list of directives separated by commas: a level for everything, a module name,
or a module name with a level.

* `Log.Level.ofName?`, `Log.Filter.ofName?` — levels by name, in any case of letters;
* `Log.Directive.read?` — one directive;
* `Log.directives` — all of a specification, the last of each name;
* `Log.Filter.ofSpec` — the least severe level that some directive lets through.
-/

set_option autoImplicit false

namespace TwoStepLogin.Log

/-- Whether two texts agree but for the case of ASCII letters. -/
def sameWord (a b : List Char) : Bool := a.map Char.toLower == b.map Char.toLower

/-- The filters with names. -/
def namedFilters : List Filter :=
  [.off, .upTo .error, .upTo .warn, .upTo .info, .upTo .debug, .upTo .trace]

/-- The filter of that name. -/
def Filter.ofName? (name : List Char) : Option Filter :=
  namedFilters.find? fun filter => sameWord filter.name.toList name

/-- What is let through from a module, or from everywhere. -/
structure Directive where
  target : Option (List Char)
  filter : Filter
  deriving DecidableEq, Repr

namespace Directive

/-- Everything from a module. -/
def whole (target : List Char) : Directive := ⟨some target, .upTo .trace⟩

/-- One directive; an unknown level and a second equals sign make it void. -/
def read? (cs : List Char) : Option Directive :=
  match Text.splitOn '=' cs with
  | [word] =>
    match Filter.ofName? word with
    | some filter => some ⟨none, filter⟩
    | none => some (whole word)
  | [target, level] =>
    let level := Text.trimChars level
    if level.isEmpty then some (whole target)
    else (Filter.ofName? level).map fun filter => ⟨some target, filter⟩
  | _ => none

/-- Add a directive, in the place of an older one for the same target. -/
def insert (d : Directive) : List Directive → List Directive
  | [] => [d]
  | other :: rest => if other.target = d.target then d :: rest else other :: insert d rest

end Directive

/-- The directives of a specification. What follows a slash is no directive; a second slash makes the
whole specification void. -/
def directives (spec : String) : List Directive :=
  match Text.splitOn '/' spec.toList with
  | [] => []
  | first :: rest =>
    if rest.length ≤ 1 then
      (((Text.splitOn ',' first).map Text.trimChars).filter fun part => !part.isEmpty).filterMap
        Directive.read? |>.foldl (fun found d => d.insert found) []
    else []

/-- The most verbose of the directives; errors alone if there is none. -/
def Filter.ofSpec (spec : String) : Filter :=
  match directives spec with
  | [] => .upTo .error
  | found => found.foldl (fun most d => most.max d.filter) .off

end TwoStepLogin.Log
