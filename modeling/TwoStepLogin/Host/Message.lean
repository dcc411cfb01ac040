import TwoStepLogin.Host.Answer
import TwoStepLogin.Host.Cookie
import TwoStepLogin.Host.FormBody

/-!
# Requests and responses of the host

* `Host.Request` — what a browser sends;
* `Host.Response` — what it gets back;
* `Host.Route` — the pages of the host, and `Host.Request.route?`, the one that a request is for.
-/

set_option autoImplicit false

namespace TwoStepLogin.Host

/-- What a browser sends. -/
structure Request where
  method : String
  target : String
  /-- The values of all cookie headers. -/
  cookies : List String
  contentType : Option String
  body : List UInt8
  deriving DecidableEq, Repr

/-- What a browser gets back. -/
structure Response where
  status : UInt16
  contentType : Option String
  cookie : Option Cookie
  body : String
  deriving DecidableEq, Repr

namespace Response

/-- A JSON document. -/
def json (status : UInt16) (cookie : Option Cookie) (value : Json) : Response :=
  ⟨status, some "application/json", cookie, value.compact⟩

/-- A line of text. -/
def plain (status : UInt16) (text : String) : Response :=
  ⟨status, some "text/plain; charset=utf-8", none, text⟩

/-- There is no such page. -/
def notFound : Response := ⟨404, none, none, ""⟩

/-- The form is not accepted. -/
def refusedForm (fault : FormFault) : Response := plain fault.status fault.message

end Response

/-- The pages of the host. -/
inductive Route where
  /-- User name and password. -/
  | login
  /-- The challenge for the device. -/
  | challenge
  /-- The device's response. -/
  | device
  | logout
  | health
  deriving DecidableEq, Repr

namespace Request

/-- The fields of the form. -/
def form (r : Request) : Except FormFault (List (String × String)) := readForm r.contentType r.body

/-- The session identifier that the browser sends back. -/
def sessionId? (r : Request) : Option String := Host.sessionId? r.cookies

/-- A scheme and a host in front of the path do not count. -/
def withoutOrigin (cs : List Char) : List Char :=
  if cs.head? = some '/' then cs
  else
    match cs.dropWhile (· != ':') with
    | ':' :: '/' :: '/' :: rest => rest.dropWhile fun c => c != '/' && c != '?' && c != '#'
    | _ => cs

/-- Escaped slashes, plus signs and percent signs stay escaped. -/
def isProtected (b : UInt8) : Bool := Percent.isOneOf ['%', '/', '+'] b

/-- Replace all other escapes by their bytes. -/
def unescape : List UInt8 → List UInt8
  | [] => []
  | [a] => [a]
  | [a, b] => [a, b]
  | a :: b :: c :: rest =>
    if a = 37 then
      match Percent.hexValue? b, Percent.hexValue? c with
      | some x, some y =>
        let byte := UInt8.ofNat (16 * x + y)
        if isProtected byte then a :: b :: c :: unescape rest else byte :: unescape rest
      | _, _ => a :: unescape (b :: c :: rest)
    else a :: unescape (b :: c :: rest)

/-- The path asked for, as bytes. -/
def path (r : Request) : List UInt8 :=
  unescape (Utf8.encode ((withoutOrigin r.target.toList).takeWhile fun c => c != '?' && c != '#'))

/-- The page that a request is for. -/
def route? (r : Request) : Option Route :=
  [("POST", "/auth/login", Route.login), ("GET", "/auth/u2f/login", .challenge),
    ("POST", "/auth/u2f/login", .device), ("POST", "/auth/logout", .logout),
    ("GET", "/ping", .health)].findSome? fun (method, path, route) =>
      if r.method = method ∧ r.path = Utf8.encodeString path then some route else none

end Request

end TwoStepLogin.Host
