import TwoStepLogin.Fido.Wire
import TwoStepLogin.Json.Parser
import TwoStepLogin.Login.Surroundings
import TwoStepLogin.Web.Network
import TwoStepLogin.Web.Url.Parser

/-!
# A FIDO server on the web

A workflow is started by a request for the endpoint, with its parameters as form fields behind the
query, and finished by a form sent to the same endpoint.

* `Fido.registrationStartUrl`, `Fido.authenticationStartUrl` — where workflows start;
* `Fido.readReply` — the answer in a reply;
* `Fido.Call.remote` — the exchange of a call;
* `Login.online` — the parties of a login: a directory in memory and a server on the web.

A body is decoded as a whole before it is read, so that every byte of it has to belong to a text. A
reader of bytes that skips members it does not know would accept a string there that is no text; here
such a body is undecodable. Left out are machines on which no client can be made, and the time that a
request may take, which belongs to the exchange.
-/

set_option autoImplicit false

namespace TwoStepLogin.Fido

open Web (Url Reply)

/-- Read the address of an endpoint. -/
def parseEndpoint (endpoint : String) : Except Fault Url :=
  match Url.parse endpoint with
  | .ok url => .ok url
  | .error fault =>
    .error (.invalidResponse ("Invalid endpoint '" ++ endpoint ++ "': " ++ fault.message))

/-- The fields that start a registration. -/
def registrationPairs (userId applicationId sessionId : String) : List (String × String) :=
  [("username", userId), ("application", applicationId), ("session_state", sessionId)]

/-- The fields that start an authentication. -/
def authenticationPairs (userId : String) (keyHandle : Option String)
    (applicationId sessionId : String) : List (String × String) :=
  ("username", userId) :: (keyHandle.map fun handle => ("keyhandle", handle)).toList ++
    [("application", applicationId), ("session_state", sessionId)]

/-- Where a registration starts. -/
def registrationStartUrl (metadata : Metadata) (userId applicationId sessionId : String) :
    Except Fault Url :=
  (parseEndpoint metadata.registrationEndpoint).map fun url =>
    url.appendQuery (registrationPairs userId applicationId sessionId)

/-- Where an authentication starts. -/
def authenticationStartUrl (metadata : Metadata) (userId : String) (keyHandle : Option String)
    (applicationId sessionId : String) : Except Fault Url :=
  (parseEndpoint metadata.authenticationEndpoint).map fun url =>
    url.appendQuery (authenticationPairs userId keyHandle applicationId sessionId)

/-- The fields that finish a workflow. -/
def finishPairs (userId token : String) : List (String × String) :=
  [("username", userId), ("tokenResponse", token)]

/-- Said when a body does not arrive or cannot be understood. -/
def undecodable : Fault := .invalidResponse "error decoding response body"

/-- Said when an address cannot be requested. -/
def unrequestable (url : Url) : Fault :=
  .transport ("builder error for url (" ++ url.requested.text ++ ")")

/-- Said when there is no answer. -/
def unanswered (url : Url) : Fault :=
  .transport ("error sending request for url (" ++ url.requested.text ++ ")")

/-- The answer in a reply. -/
def readReply {α : Type} (url : Url) (read? : String → Option α) : Reply → Except Fault α
  | .refused | .closed | .garbled => .error (unanswered url)
  | .complete status body =>
    if Web.isSuccess status then
      match (Utf8.decodeString? body).bind read? with
      | some a => .ok a
      | none => .error undecodable
    else .error (.status status (String.ofList (Utf8.decodeLossy body)))
  | .cutOff status => .error (if Web.isSuccess status then undecodable else .status status "")

/-- Send a request and read what comes back. -/
def send {α : Type} (request : Web.Request) (read? : String → Option α) :
    Program Web.network (Except Fault α) :=
  if request.url.requested.isRequestable then do
    let reply ← Web.exchange request
    pure (readReply request.url read? reply)
  else pure (.error (unrequestable request.url))

/-- Request an address. -/
def fetch {α : Type} (read? : String → Option α) :
    Except Fault Url → Program Web.network (Except Fault α)
  | .error fault => pure (.error fault)
  | .ok url => do
    Program.log (.debug ("FIDO GET " ++ url.text))
    send (.get url) read?

/-- Finish a workflow at an endpoint. -/
def submit (endpoint userId token : String) : Program Web.network (Except Fault Status) :=
  match parseEndpoint endpoint with
  | .error fault => pure (.error fault)
  | .ok url => do
    Program.log (.debug ("FIDO POST " ++ url.text))
    send (.post url (finishPairs userId token)) Status.read?

/-- The exchange of a call. -/
def Call.remote : (call : Call) → Program Web.network call.Answer
  | .fetchMetadata url => fetch Metadata.read? (parseEndpoint url)
  | .startRegistration metadata userId applicationId sessionId =>
    fetch Json.parse? (registrationStartUrl metadata userId applicationId sessionId)
  | .finishRegistration metadata userId token => submit metadata.registrationEndpoint userId token
  | .startAuthentication metadata userId keyHandle applicationId sessionId =>
    fetch Json.parse?
      (authenticationStartUrl metadata userId keyHandle applicationId sessionId)
  | .finishAuthentication metadata userId token =>
    submit metadata.authenticationEndpoint userId token

end TwoStepLogin.Fido

namespace TwoStepLogin.Login

/-- The parties of a login that a host finds: a directory in memory and a server on the web. -/
def online : Handler surroundings Web.network Directory where
  handle
    | .directory query, d => pure (d.respond query)
    | .fido call, d => do
      let answer ← call.remote
      pure (answer, d)
    | .pause milliseconds, d => do
      Web.pause milliseconds
      pure ((), d)

end TwoStepLogin.Login
