import TwoStepLogin.Web.Domain
import TwoStepLogin.Web.Url.Basic

/-!
# Reading addresses

An address is read forgivingly: blanks around it and line breaks within it do not count, dots in the
path are resolved, and characters that may not stand for themselves are escaped.

* `Url.Fault` — why a text is no address;
* `Url.Kind` — what the scheme says about the rest;
* `Url.parse` — read an address.
-/

set_option autoImplicit false

namespace TwoStepLogin.Web.Url

/-- Why a text is no address. -/
inductive Fault where
  | emptyHost
  | invalidName
  | invalidPort
  | invalidIpv4
  | invalidIpv6
  | invalidCharacter
  /-- There is no scheme. -/
  | relative
  deriving DecidableEq, Repr

/-- Wording of a fault. -/
def Fault.message : Fault → String
  | .emptyHost => "empty host"
  | .invalidName => "invalid international domain name"
  | .invalidPort => "invalid port number"
  | .invalidIpv4 => "invalid IPv4 address"
  | .invalidIpv6 => "invalid IPv6 address"
  | .invalidCharacter => "invalid domain character"
  | .relative => "relative URL without a base"

/-! ## Which bytes stand for themselves -/

/-- In a part that is not looked into. -/
def keptInRest (b : UInt8) : Bool := !Percent.isControl b

/-- In a fragment. -/
def keptInFragment (b : UInt8) : Bool :=
  !Percent.isControl b && !Percent.isOneOf [' ', '"', '<', '>', '\u0060'] b

/-- In a path. -/
def keptInPath (b : UInt8) : Bool := keptInFragment b && !Percent.isOneOf ['#', '?', '{', '}'] b

/-- In user and password. -/
def keptInUser (b : UInt8) : Bool :=
  keptInPath b && !Percent.isOneOf ['/', ':', ';', '=', '@', '[', '\\', ']', '^', '|'] b

/-- In a query. -/
def keptInQuery (isSpecial : Bool) (b : UInt8) : Bool :=
  !Percent.isControl b && !Percent.isOneOf [' ', '"', '#', '<', '>'] b &&
    !(isSpecial && b.toNat == '\''.toNat)

/-- Characters with all others escaped. -/
def escaped (kept : UInt8 → Bool) (cs : List Char) : String :=
  String.ofList (Percent.encodeChars kept cs)

/-! ## Schemes -/

/-- What the scheme says about the rest. -/
inductive Kind where
  | file
  /-- A scheme of the web, with its usual port. -/
  | web (port : Nat)
  | other
  deriving DecidableEq, Repr

/-- The kind of a scheme. -/
def Kind.ofScheme (scheme : String) : Kind :=
  if scheme = "http" ∨ scheme = "ws" then .web 80
  else if scheme = "https" ∨ scheme = "wss" then .web 443
  else if scheme = "ftp" then .web 21
  else if scheme = "file" then .file
  else .other

/-- Whether a backslash counts as a slash. -/
def Kind.isSpecial : Kind → Bool
  | .other => false
  | _ => true

/-- The port that need not be written. -/
def Kind.usualPort : Kind → Option Nat
  | .web port => some port
  | _ => none

/-- A tab or the end of a line. -/
def isBreak (c : Char) : Bool := c == '\t' || c == '\n' || c == '\r'

/-- The text without tabs and line breaks. -/
def joinedLines (cs : List Char) : List Char := cs.filter fun c => !isBreak c

/-- The text without blanks and controls at its ends. -/
def trimmed (cs : List Char) : List Char :=
  let outer (c : Char) : Bool := c.toNat ≤ 0x20
  ((cs.dropWhile outer).reverse.dropWhile outer).reverse

/-- A letter of a scheme. -/
def isSchemeChar (c : Char) : Bool := c.isAlphanum || c == '+' || c == '-' || c == '.'

/-- The scheme in lower case and what follows its colon. -/
def splitScheme (cs : List Char) : Option (String × List Char) :=
  match cs.dropWhile isSchemeChar with
  | ':' :: rest =>
    if cs.head?.any Char.isAlpha then
      some (String.ofList ((cs.takeWhile isSchemeChar).map Char.toLower), rest)
    else none
  | _ => none

/-! ## Hosts -/

/-- A slash, or a backslash that counts as one. -/
def isSlash (isSpecial : Bool) (c : Char) : Bool := c == '/' || (isSpecial && c == '\\')

/-- The sign of a query or a fragment. -/
def isTail (c : Char) : Bool := c == '?' || c == '#'

/-- An address in brackets. -/
def bracketed (cs : List Char) : Except Fault Host :=
  match cs.reverse with
  | ']' :: inner =>
    match Address.ipv6? (inner.reverse.drop 1) with
    | some groups => .ok (.ipv6 groups)
    | none => .error .invalidIpv6
  | _ => .error .invalidIpv6

/-- The host of a scheme of the web. -/
def webHost (cs : List Char) : Except Fault Host :=
  if cs.head? = some '[' then bracketed cs
  else
    match (Utf8.decode? (Percent.decode (Utf8.encode cs))).bind Domain.toAscii? with
    | none => .error .invalidName
    | some name =>
      if name.isEmpty then .error .emptyHost
      else if Address.isNumeric name then
        match Address.ipv4? name with
        | some address => .ok (.ipv4 address)
        | none => .error .invalidIpv4
      else .ok (.name (String.ofList name))

/-- Characters that may not stand in the host of any other scheme. -/
def isRefused (c : Char) : Bool :=
  [Char.ofNat 0, '\t', '\n', '\r', ' ', '#', '/', ':', '<', '>', '?', '@', '[', '\\', ']', '^',
    '|'].contains c

/-- The host of any other scheme. -/
def otherHost (cs : List Char) : Except Fault Host :=
  if cs.head? = some '[' then bracketed cs
  else if cs.any isRefused then .error .invalidCharacter
  else .ok (.name (escaped keptInRest cs))

/-- The text before the first colon outside brackets, and the rest. -/
def splitHost : Bool → List Char → List Char × List Char
  | _, [] => ([], [])
  | inside, c :: cs =>
    if c == ':' && !inside then ([], c :: cs)
    else
      let (host, rest) := splitHost (if c == '[' then true else if c == ']' then false else inside) cs
      (c :: host, rest)

/-- The port, and what follows it. A port that is usual or empty is left out. -/
def readPort (kind : Kind) (cs : List Char) : Except Fault (Option Nat × List Char) :=
  let digits := cs.takeWhile Char.isDigit
  let rest := cs.dropWhile Char.isDigit
  let port := digits.foldl (fun n c => 10 * n + (c.toNat - '0'.toNat)) 0
  if 65535 < port then .error .invalidPort
  else if rest.head?.all fun c => c == '\\' then
    .ok (if digits.isEmpty ∨ kind.usualPort = some port then none else some port, rest)
  else .error .invalidPort

/-- User and password, escaped. -/
def readCredentials (cs : List Char) : String × Option String :=
  match Text.splitOnce ':' cs with
  | none => (escaped keptInUser cs, none)
  | some (user, password) =>
    (escaped keptInUser user, if password.isEmpty then none else some (escaped keptInUser password))

/-- The text before and after the last at sign. -/
def splitCredentials (cs : List Char) : Option (List Char × List Char) :=
  match Text.splitOnce '@' cs.reverse with
  | none => none
  | some (after, before) => some (before.reverse, after.reverse)

/-- What stands between the two slashes and the end of the authority; the second part of the result
belongs to the path. `hasMore` tells whether anything follows. -/
def readAuthority (kind : Kind) (cs : List Char) (hasMore : Bool) :
    Except Fault (Authority × List Char) := do
  let (credentials, machine) := (splitCredentials cs).getD ([], cs)
  if cs = ['@'] ∧ hasMore then throw .emptyHost
  let (user, password) := readCredentials credentials
  let (hostText, rest) := splitHost false machine
  let host ←
    if kind.isSpecial then
      if hostText.isEmpty then throw .emptyHost else webHost hostText
    else otherHost hostText
  if host = .name "" ∧ (!rest.isEmpty ∨ !user.isEmpty ∨ password.isSome) then throw .emptyHost
  let (port, rest) ← if rest.isEmpty then pure (none, []) else readPort kind (rest.drop 1)
  return (⟨user, password, host, port⟩, rest)

/-! ## Paths -/

/-- One dot, written as it is or escaped. -/
def isDot (segment : List Char) : Bool :=
  segment == ['.'] || segment.map Char.toLower == ['%', '2', 'e']

/-- Two dots, each written as it is or escaped. -/
def isDoubleDot (segment : List Char) : Bool :=
  (isDot (segment.take 1) && isDot (segment.drop 1)) || (isDot (segment.take 3) && isDot (segment.drop 3))

/-- The name of a drive: a letter and a colon or bar. -/
def isDrive (segment : List Char) : Bool :=
  match segment with
  | [letter, sign] => letter.isAlpha && (sign == ':' || sign == '|')
  | _ => false

/-- The segments read so far, and whether the first of them is a drive. -/
structure Segments where
  done : List (List Char)
  onDrive : Bool

/-- Leave the last segment, unless it is a drive. -/
def Segments.leave (s : Segments) : Segments :=
  if s.done.getLast?.any isDrive then s else { s with done := s.done.dropLast }

/-- Add a segment that is no dots. -/
def Segments.add (s : Segments) (segment : List Char) : Segments :=
  { s with done := s.done ++ [Percent.encodeChars keptInPath segment] }

/-- Go on by one segment. -/
def Segments.step (s : Segments) (segment : List Char) (isLast : Bool) : Segments :=
  if isDoubleDot segment then if isLast then s.leave.add [] else s.leave
  else if isDot segment then if isLast then s.add [] else s
  else s.add segment

/-- Go on by one segment of a file's path, whose first may be a drive. What stands on the line
behind the drive is a segment of its own, and no dots. -/
def Segments.stepFile (s : Segments) (segment : List Char) (isLast : Bool) : Segments :=
  let whole := joinedLines segment
  match s.done, segment with
  | [], letter :: ':' :: '\t' :: c :: rest => (s.add [letter, ':']).add (joinedLines (c :: rest))
  | [], _ => if isDrive whole then ⟨[whole.take 1 ++ [':']], true⟩ else s.step whole isLast
  | _, _ => s.step whole isLast

/-- Cut a path at its slashes. -/
def splitSegments (isSpecial : Bool) : List Char → List (List Char)
  | [] => [[]]
  | c :: cs =>
    if isSlash isSpecial c then [] :: splitSegments isSpecial cs
    else
      match splitSegments isSpecial cs with
      | [] => [[c]]
      | part :: parts => (c :: part) :: parts

/-- Resolve segments from the left. -/
def resolve (step : Segments → List Char → Bool → Segments) : List (List Char) → Segments → Segments
  | [], s => s
  | segment :: rest, s => resolve step rest (step s segment rest.isEmpty)

/-- A path without its first slash. -/
def withoutSlash (isSpecial : Bool) (cs : List Char) : List Char :=
  if cs.head?.any (isSlash isSpecial) then cs.drop 1 else cs

/-- Segments as text, each after a slash. -/
def joined (segments : List (List Char)) : List Char := segments.flatMap fun segment => '/' :: segment

/-- The path that begins at a slash, which may be missing. -/
def readPath (isSpecial : Bool) (cs : List Char) : String :=
  let segments := splitSegments isSpecial (withoutSlash isSpecial cs)
  String.ofList (joined (resolve Segments.step segments ⟨[], false⟩).done)

/-- The path of a file, and whether it begins with a drive. Where the machine is left out between
its slashes, the path begins with an empty segment, and what follows this segment is no drive. -/
def readDrivePath (leftOut : Bool) (cs : List Char) : String × Bool :=
  let segments := splitSegments true (if leftOut then cs else withoutSlash true cs)
  let s := resolve Segments.stepFile segments ⟨[], false⟩
  (String.ofList ('/' :: (joined s.done).dropWhile (· == '/')), s.onDrive)

/-! ## The whole -/

/-- Query and fragment. -/
def readTail (isSpecial : Bool) (cs : List Char) : Option String × Option String :=
  let query := cs.takeWhile (· != '#')
  let fragment := cs.dropWhile (· != '#')
  (if query.head? = some '?' then some (escaped (keptInQuery isSpecial) (query.drop 1)) else none,
   if fragment.isEmpty then none else some (escaped keptInFragment (fragment.drop 1)))

/-- An address with what follows its path. -/
def withTail (isSpecial : Bool) (scheme : String) (authority : Option Authority) (path : String)
    (cs : List Char) : Url :=
  let (query, fragment) := readTail isSpecial cs
  ⟨scheme, authority, path, query, fragment⟩

/-- What follows the two slashes. -/
def readWithAuthority (scheme : String) (kind : Kind) (cs : List Char) : Except Fault Url := do
  let isEnd (c : Char) : Bool := isSlash kind.isSpecial c || isTail c
  let after := cs.dropWhile fun c => !isEnd c
  let (authority, left) ← readAuthority kind (cs.takeWhile fun c => !isEnd c) (!after.isEmpty)
  let rest := left ++ after
  let raw := rest.takeWhile fun c => !isTail c
  let path := if raw.isEmpty ∧ !kind.isSpecial then "" else readPath kind.isSpecial raw
  return withTail kind.isSpecial scheme (some authority) path (rest.dropWhile fun c => !isTail c)

/-- What follows the colon of a scheme that is not of the web. -/
def readOther (scheme : String) (cs : List Char) : Except Fault Url :=
  match cs with
  | '/' :: '/' :: rest => readWithAuthority scheme .other rest
  | _ =>
    let raw := cs.takeWhile fun c => !isTail c
    let path := if cs.head? = some '/' then readPath false raw else escaped keptInRest raw
    .ok (withTail false scheme none path (cs.dropWhile fun c => !isTail c))

/-- The machine of a file; none is needed, and this one is not named. -/
def fileHost (cs : List Char) : Except Fault Host :=
  if cs.isEmpty then .ok (.name "")
  else (webHost cs).map fun host => if host = .name "localhost" then .name "" else host

/-- The text without tabs and line breaks, but for one tab that stands for those behind the colon of
a drive. What has been read is in reversed order. -/
def markDriveLines (before : List Char) : List Char → List Char
  | [] => []
  | c :: cs =>
    if !isBreak c then c :: markDriveLines (c :: before) cs
    else if isDrive (before.take 2).reverse && before.head? = some ':' then
      '\t' :: markDriveLines ('\t' :: before) cs
    else markDriveLines before cs

/-- What follows the colon of a file's scheme. -/
def readFileUrl (scheme : String) (text : List Char) : Except Fault Url := do
  let cs := markDriveLines [] text
  let slashes := (cs.take 2).takeWhile (isSlash true)
  let after := cs.drop 2
  let hostText := after.takeWhile fun c => !(isSlash true c || isTail c)
  let hasHost := slashes.length = 2 ∧ !isDrive (joinedLines hostText)
  let host ← if hasHost then fileHost (joinedLines hostText) else pure (.name "")
  let leftOut := hasHost ∧ host = .name ""
  let rest :=
    if hasHost then after.drop hostText.length else if slashes.length = 2 then after else cs
  let (path, onDrive) := readDrivePath leftOut (rest.takeWhile fun c => !isTail c)
  let host := if onDrive then .name "" else host
  let tail := joinedLines (rest.dropWhile fun c => !isTail c)
  return withTail true scheme (some ⟨"", none, host, none⟩) path tail

/-- Read an address. -/
def parse (s : String) : Except Fault Url :=
  let text := trimmed s.toList
  match splitScheme (joinedLines text) with
  | none => .error .relative
  | some (scheme, rest) =>
    match Kind.ofScheme scheme with
    | .file => readFileUrl scheme ((text.dropWhile (· != ':')).drop 1)
    | .web port => readWithAuthority scheme (.web port) (rest.dropWhile (isSlash true))
    | .other => readOther scheme rest

end TwoStepLogin.Web.Url
