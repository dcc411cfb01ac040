import TwoStepLogin.Text.Blank
import TwoStepLogin.Text.Percent

/-!
# The cookie of a login

The browser keeps the session identifier in a cookie that scripts cannot read.

* `Host.Cookie` — a cookie with its attributes; `Cookie.text` shows it, `Cookie.encodedText` is
  the form sent, with the value percent-encoded;
* `Host.CookieJar` — the host's settings, from which `session` and `expired` make cookies;
* `Host.readCookies` — names and values in `Cookie` headers;
* `Host.sessionId?` — the session identifier that a browser sends back.
-/

set_option autoImplicit false

namespace TwoStepLogin.Host

/-- Name of the cookie. -/
def cookieName : String := "u2f_session"

/-- Which requests from other sites carry the cookie. -/
inductive SameSite where
  | lax
  | strict
  deriving DecidableEq, Repr

/-- The word for it. -/
def SameSite.name : SameSite → String
  | .lax => "Lax"
  | .strict => "Strict"

/-- A cookie for the whole site, hidden from scripts. -/
structure Cookie where
  value : String
  sameSite : SameSite
  secure : Bool
  /-- Seconds until the browser forgets it. -/
  maxAge : Int
  deriving DecidableEq, Repr

namespace Cookie

/-- Bytes that stand for themselves in a value that is sent. -/
def isPlain (b : UInt8) : Bool :=
  !Percent.isControl b && !Percent.isOneOf
    [' ', '"', '<', '>', '\u0060', '#', '?', '{', '}', '/', ':', ';', '=', '@', '[', '\\', ']', '^',
     '|', '%', '(', ')', ','] b

/-- A text with all other bytes escaped. -/
def encode (s : String) : String := String.ofList (Percent.encodeChars isPlain s.toList)

/-- What follows name and value. -/
def attributes (c : Cookie) : String :=
  "; HttpOnly; SameSite=" ++ c.sameSite.name ++ (if c.secure then "; Secure" else "") ++
    "; Path=/; Max-Age=" ++ toString c.maxAge

/-- The cookie with its value as it is. -/
def text (c : Cookie) : String := cookieName ++ "=" ++ c.value ++ c.attributes

/-- The cookie with its value percent-encoded. -/
def encodedText (c : Cookie) : String := cookieName ++ "=" ++ encode c.value ++ c.attributes

end Cookie

/-- How the host makes cookies. -/
structure CookieJar where
  secure : Bool
  /-- Seconds until a browser forgets a session. -/
  lifetime : Int
  deriving DecidableEq, Repr

namespace CookieJar

/-- Whether a number of seconds fits 64 bits with a sign. -/
def isLifetime (seconds : Int) : Bool :=
  -9223372036854775808 ≤ seconds && seconds ≤ 9223372036854775807

/-- Cookies that live this many minutes, unless the seconds cannot be represented. -/
def ofMinutes? (secure : Bool) (minutes : Int64) : Option CookieJar :=
  let seconds := minutes.toInt * 60
  if isLifetime seconds then some ⟨secure, seconds⟩ else none

/-- Bind the browser to a session. -/
def session (jar : CookieJar) (id : String) : Cookie := ⟨id, .lax, jar.secure, jar.lifetime⟩

/-- Make the browser forget its session. -/
def expired (jar : CookieJar) : Cookie := ⟨"", .strict, jar.secure, 0⟩

end CookieJar

/-- A text without one pair of double quotes around it. -/
def unquote (cs : List Char) : List Char :=
  match cs with
  | '"' :: rest =>
    match rest.reverse with
    | '"' :: middle => middle.reverse
    | _ => cs
  | _ => cs

/-- Replace the escapes of a text; none if the bytes are no text. -/
def decodeText? (cs : List Char) : Option String :=
  Utf8.decodeString? (Percent.decode (Utf8.encode cs))

/-- One cookie of a header: a name that is not empty, an equals sign, and a value. -/
def readPair? (cs : List Char) : Option (String × String) := do
  let (before, after) ← Text.splitOnce '=' cs
  let name := Text.trimChars before
  if name.isEmpty then none
  else
    let value := Text.trimChars (unquote (Text.trimChars after))
    some (← decodeText? name, ← decodeText? value)

/-- The cookies of a header, in order; parts that are none are passed over. -/
def readCookies (header : String) : List (String × String) :=
  (Text.splitOn ';' header.toList).filterMap fun part => readPair? (Text.trimChars part)

/-- The session identifier in the headers: the value of the first cookie of that name, unless it is
empty. -/
def sessionId? (headers : List String) : Option String :=
  match (headers.flatMap readCookies).lookup cookieName with
  | none => none
  | some value => if value.isEmpty then none else some value

end TwoStepLogin.Host
