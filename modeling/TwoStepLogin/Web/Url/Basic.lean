import TwoStepLogin.Web.Address
import TwoStepLogin.Web.Form

/-!
# Addresses on the web

* `Url` — the parts of an address, each in its written form;
* `Url.text` — the address as one text;
* `Url.queryPairs`, `Url.appendQuery` — the query as form fields;
* `Url.withoutCredentials` — the address as it may be shown.
-/

set_option autoImplicit false

namespace TwoStepLogin.Web

/-- The machine that an address names. -/
inductive Url.Host where
  | name (text : String)
  | ipv4 (address : Nat)
  | ipv6 (groups : List Nat)
  deriving DecidableEq, Repr

/-- What stands before the path. -/
structure Url.Authority where
  user : String
  password : Option String
  host : Url.Host
  port : Option Nat
  deriving DecidableEq, Repr

/-- An address. -/
structure Url where
  scheme : String
  authority : Option Url.Authority
  path : String
  query : Option String
  fragment : Option String
  deriving DecidableEq, Repr

namespace Url

/-- The machine as text. -/
def Host.text : Host → String
  | .name text => text
  | .ipv4 address => Address.ipv4Text address
  | .ipv6 groups => "[" ++ Address.ipv6Text groups ++ "]"

/-- A part with the sign that stands before it. -/
def marked (sign : String) : Option String → String
  | none => ""
  | some text => sign ++ text

/-- Whether user or password are given. -/
def Authority.hasCredentials (a : Authority) : Bool := !a.user.isEmpty || a.password.isSome

/-- User and password with the signs around them. -/
def Authority.credentialsText (a : Authority) : String :=
  if a.hasCredentials then a.user ++ marked ":" a.password ++ "@" else ""

/-- Everything between the two slashes and the path. -/
def Authority.text (a : Authority) : String :=
  a.credentialsText ++ a.host.text ++ marked ":" (a.port.map toString)

/-- The path, kept apart from an authority where there is none. -/
def pathText (url : Url) : String :=
  if url.authority.isNone && url.path.startsWith "//" then "/." ++ url.path else url.path

/-- The address as one text. -/
def text (url : Url) : String :=
  url.scheme ++ ":" ++ marked "//" (url.authority.map Authority.text) ++ url.pathText ++
    marked "?" url.query ++ marked "#" url.fragment

/-- The query as form fields. -/
def queryPairs (url : Url) : List (String × String) :=
  match url.query with
  | none => []
  | some query => Form.decodeString query

/-- Form fields behind a query; an ampersand keeps them apart from what is there. -/
def extendQuery (query : Option String) (pairs : List (String × String)) : String :=
  match query with
  | none => String.ofList (Form.encode pairs)
  | some query =>
    if query.isEmpty then String.ofList (Form.encode pairs)
    else query ++ "&" ++ String.ofList (Form.encode pairs)

/-- Add form fields to the query. -/
def appendQuery (url : Url) (pairs : List (String × String)) : Url :=
  { url with query := some (extendQuery url.query pairs) }

/-- The address without user and password. -/
def withoutCredentials (url : Url) : Url :=
  { url with authority := url.authority.map fun a => { a with user := "", password := none } }

end Url

end TwoStepLogin.Web
