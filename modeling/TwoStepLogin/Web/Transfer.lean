import TwoStepLogin.Text.Base64
import TwoStepLogin.Web.Network

/-!
# Requests and replies as bytes

* `Web.Request.bytes` — a request as it is sent, for a connection that ends with the reply;
* `Web.Reply.ofBytes` — the reply in all bytes received until the connection ended.

A reply that sends the client on to another address is read like any other; where it leads is not kept.
-/

set_option autoImplicit false

namespace TwoStepLogin.Web

/-! ## Requests -/

/-- The port of an address. -/
def Url.port (url : Url) : Nat :=
  ((url.authority.bind Url.Authority.port).getD (if url.scheme = "https" then 443 else 80))

/-- The path and the query. -/
def Url.target (url : Url) : String := url.path ++ Url.marked "?" url.query

/-- The machine and its port, unless that is the usual one. -/
def Url.machine (url : Url) : String :=
  match url.authority with
  | none => ""
  | some a => { a with user := "", password := none : Url.Authority }.text

/-- User and password as a header. -/
def Url.credentialsHeader (url : Url) : List String :=
  match url.authority with
  | none => []
  | some a =>
    if a.identifies then
      let user := (Url.decoded? a.user).getD ""
      let password := (a.password.bind Url.decoded?).getD ""
      ["Authorization: Basic " ++ Base64.encodeBytes (Utf8.encodeString (user ++ ":" ++ password))]
    else []

/-- The body of a request. -/
def Request.body : Request → List UInt8
  | .get _ => []
  | .post _ form => Utf8.encode (Form.encode form)

/-- The headers that describe the body. -/
def Request.bodyHeaders : Request → List String
  | .get _ => []
  | .post url form => [
    "Content-Type: application/x-www-form-urlencoded",
    "Content-Length: " ++ toString (Request.post url form).body.length]

/-- The word for the kind of request. -/
def Request.method : Request → String
  | .get _ => "GET"
  | .post .. => "POST"

/-- A request as it is sent. -/
def Request.bytes (r : Request) : List UInt8 :=
  let lines := [r.method ++ " " ++ r.url.target ++ " HTTP/1.1", "Host: " ++ r.url.machine,
    "Accept: */*", "Connection: close"] ++ r.url.credentialsHeader ++ r.bodyHeaders
  Utf8.encodeString ("\r\n".intercalate lines ++ "\r\n\r\n") ++ r.body

/-! ## Replies -/

/-- The text up to the end of the line, and what follows it. -/
def takeLine? : List UInt8 → Option (List UInt8 × List UInt8)
  | [] => none
  | 10 :: rest => some ([], rest)
  | 13 :: 10 :: rest => some ([], rest)
  | b :: rest => (takeLine? rest).map fun (line, after) => (b :: line, after)

/-- The lines up to an empty one, and what follows it, in at most the given number of lines. -/
def takeHead? : Nat → List UInt8 → Option (List String × List UInt8)
  | 0, _ => none
  | fuel + 1, bytes => do
    let (line, rest) ← takeLine? bytes
    if line.isEmpty then some ([], rest)
    else
      let (lines, after) ← takeHead? fuel rest
      some (String.ofList (Utf8.decodeLossy line) :: lines, after)

/-- The number in a status line. -/
def statusOf? (line : String) : Option UInt16 :=
  match Text.splitOn ' ' line.toList with
  | protocol :: code :: _ =>
    if "HTTP/1.".toList.isPrefixOf protocol ∧ code.length = 3 then
      (Address.numberIn? 10 code).map UInt16.ofNat
    else none
  | _ => none

/-- The value of the first header of a name in lower case. -/
def headerOf? (name : String) (lines : List String) : Option (List Char) :=
  lines.findSome? fun line =>
    match Text.splitOnce ':' line.toList with
    | some (before, after) =>
      if (Text.trimChars before).map Char.toLower = name.toList then some (Text.trimChars after)
      else none
    | none => none

/-- A body sent in chunks, none if its end is missing; at most the given number of chunks. -/
def chunks? : Nat → List UInt8 → Option (List UInt8)
  | 0, _ => none
  | fuel + 1, bytes => do
    let (line, rest) ← takeLine? bytes
    let digits := (Utf8.decodeLossy line).takeWhile fun c => (Address.hexDigit? c).isSome
    let size ← Address.group? digits
    if size = 0 then some []
    else if rest.length < size then none
    else
      let (_, after) ← takeLine? (rest.drop size)
      (chunks? fuel after).map fun more => rest.take size ++ more

/-- A reply whose head is read. -/
def Reply.ofParts (status : UInt16) (headers : List String) (rest : List UInt8) : Reply :=
  if headerOf? "transfer-encoding" headers = some "chunked".toList then
    match chunks? (rest.length + 1) rest with
    | some body => .complete status body
    | none => .cutOff status
  else
    match (headerOf? "content-length" headers).bind (Address.numberIn? 10) with
    | some size => if rest.length < size then .cutOff status else .complete status (rest.take size)
    | none => .complete status rest

/-- The reply in all bytes received; provisional replies are passed over. -/
def Reply.ofBytesIn : Nat → List UInt8 → Reply
  | 0, _ => .garbled
  | fuel + 1, bytes =>
    if bytes.isEmpty then .closed
    else
      match takeHead? (bytes.length + 1) bytes with
      | none => .closed
      | some ([], _) => .garbled
      | some (line :: headers, rest) =>
        match statusOf? line with
        | none => .garbled
        | some status =>
          if status < 200 then Reply.ofBytesIn fuel rest else Reply.ofParts status headers rest

/-- The reply in all bytes received. -/
def Reply.ofBytes (bytes : List UInt8) : Reply := Reply.ofBytesIn (bytes.length + 1) bytes

end TwoStepLogin.Web
