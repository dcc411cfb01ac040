import TwoStepLogin.Effect.Program
import TwoStepLogin.Web.Url.Basic

/-!
# Exchanges with web servers

* `Web.Request` — what is sent; `Web.Url.isRequestable` says which addresses it may go to;
* `Web.Reply` — what becomes of it;
* `Web.network` — exchanges and pauses as an interface;
* `Web.unreachable` — a network without any server.

An exchange stands for all that is done for one request, and its reply is the last one: where a server
sends the client on to another address, the requests that follow are part of the same exchange. How far
they are followed, how long a reply may take and whether a connection is encrypted is left to those who
carry exchanges out; giving up counts as having no connection.
-/

set_option autoImplicit false

namespace TwoStepLogin.Web

/-- What is sent to a web server. -/
inductive Request where
  | get (url : Url)
  | post (url : Url) (form : List (String × String))
  deriving DecidableEq, Repr

/-- The address of a request. -/
def Request.url : Request → Url
  | .get url => url
  | .post url _ => url

/-- What becomes of a request. -/
inductive Reply where
  /-- There is no connection. -/
  | refused
  /-- The connection ends without an answer. -/
  | closed
  /-- The answer is not of the protocol. -/
  | garbled
  /-- A whole answer. -/
  | complete (status : UInt16) (body : List UInt8)
  /-- An answer whose body ends too early. -/
  | cutOff (status : UInt16)
  deriving DecidableEq, Repr, Inhabited

/-- Whether a status means success. -/
def isSuccess (status : UInt16) : Bool := 200 ≤ status && status < 300

/-- Characters that the host of a request may not hold. -/
def isUnsendable (c : Char) : Bool := ['"', '\u0060', '{', '}'].contains c

/-- Length of the longest address that can be requested. -/
def longestUrl : Nat := 65534

/-- Whether an address can be requested. -/
def Url.isRequestable (url : Url) : Bool :=
  (url.scheme == "http" || url.scheme == "https") &&
    !(url.authority.any fun a => a.host.text.toList.any isUnsendable) &&
    url.text.utf8ByteSize ≤ longestUrl

/-- A part without its escapes, if that is a text. -/
def Url.decoded? (part : String) : Option String :=
  Utf8.decodeString? (Percent.decode (Utf8.encodeString part))

/-- Whether user and password go into a header of their own. -/
def Url.Authority.identifies (a : Url.Authority) : Bool :=
  match Url.decoded? a.user with
  | none => false
  | some user => !user.isEmpty || (a.password.bind Url.decoded?).isSome

/-- The address that a request is made to. -/
def Url.requested (url : Url) : Url :=
  if url.authority.any Url.Authority.identifies then url.withoutCredentials else url

/-- What a program on the network may ask for. -/
inductive Network.Question where
  | exchange (request : Request)
  | pause (milliseconds : UInt64)
  deriving DecidableEq, Repr

/-- The type of the answers. -/
def Network.Question.Answer : Network.Question → Type
  | .exchange _ => Reply
  | .pause _ => Unit

/-- Exchanges and pauses. -/
def network : Interface := ⟨Network.Question, Network.Question.Answer⟩

/-- Make one exchange. -/
def exchange (request : Request) : Program network Reply :=
  Program.ask (I := network) (.exchange request) .done

/-- Wait. -/
def pause (milliseconds : UInt64) : Program network Unit :=
  Program.ask (I := network) (.pause milliseconds) .done

/-- A network on which no server is reached. -/
def unreachable : Responder network Unit where
  respond
    | .exchange _, s => (.refused, s)
    | .pause _, s => ((), s)

end TwoStepLogin.Web
