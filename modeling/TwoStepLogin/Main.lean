import Std.Async.DNS
import Std.Async.Signal
import Std.Async.TCP
import Std.Http.Server
import Std.Sync.Mutex
import TwoStepLogin.Fido.Remote
import TwoStepLogin.Host.SessionId
import TwoStepLogin.Host.Startup
import TwoStepLogin.Web.Transfer

/-!
# The host as a program

* `Terminal.loadSettings` — settings from the files and the environment of the process;
* `Terminal.perform` — exchanges over the network and records on the standard error stream;
* `Terminal.listen` — requests from browsers, one after the other;
* `main` — start, serve until the process is told to stop, and let the method go.

Not covered: encrypted connections, replies that send the client on to another address, and the log
lines of single requests. No logger is installed when the settings are loaded.
-/

set_option autoImplicit false

namespace TwoStepLogin.Terminal

open Std.Async
open Std.Net (SocketAddress IPv4Addr IPv6Addr IPAddr)

/-! ## Settings -/

/-- The system's code for a directory that is read as if it were a file. -/
def directoryCode : UInt32 := 21

/-- A file as part of a tree. What is there but cannot be read counts as a directory; nothing is there if
the path leads through a file. -/
def readNode (path : String) : IO (List (String × List UInt8)) := do
  match ← (IO.FS.readBinFile path).toBaseIO with
  | .ok bytes => pure [(path, bytes.toList)]
  | .error (.noFileOrDirectory ..) => pure []
  | .error (.inappropriateType _ code _) =>
    pure (if code = directoryCode then [(path ++ "/-", [])] else [])
  | .error _ => pure [(path ++ "/-", [])]

/-- The variables of the process that are looked at. -/
def readEnvironment : IO Settings.Environment := do
  let mut environment := Attributes.empty
  for name in Settings.variableNames do
    if let some value ← IO.getEnv name then environment := environment.set name value
  pure environment

/-- Settings from the files and the environment of the process. -/
def loadSettings : IO Settings.Loaded := do
  let environment ← readEnvironment
  let assignments ← readNode Settings.assignmentsName
  let base ← readNode Settings.fileName
  let tree := FileTree.ofFiles (assignments ++ base)
  let secrets ←
    match Settings.secretsPath? tree environment with
    | none => pure []
    | some path => readNode path
  pure (Settings.load (.ofFiles (assignments ++ base ++ secrets)) environment)

/-! ## Exchanges -/

/-- The network addresses of a machine. -/
def resolve (host : Web.Url.Host) : Async (List IPAddr) := do
  match host with
  | .ipv4 _ => pure ((IPv4Addr.ofString host.text).map IPAddr.v4).toList
  | .ipv6 groups => pure ((IPv6Addr.ofString (Web.Address.ipv6Text groups)).map IPAddr.v6).toList
  | .name text => Array.toList <$> DNS.getAddrInfo text ""

/-- A network address with a port. -/
def withPort (address : IPAddr) (port : UInt16) : SocketAddress :=
  match address with
  | .v4 addr => .v4 ⟨addr, port⟩
  | .v6 addr => .v6 ⟨addr, port⟩

/-- Everything that arrives on a connection. -/
partial def receiveAll (client : TCP.Socket.Client) (received : ByteArray) : Async ByteArray := do
  match ← client.recv? 65536 with
  | none => pure received
  | some bytes => receiveAll client (received ++ bytes)

/-- Send a request to a machine and read its reply. -/
def converse (request : Web.Request) (host : Web.Url.Host) : Async Web.Reply := do
  match ← resolve host with
  | [] => pure .refused
  | address :: _ => do
    let client ← TCP.Socket.Client.mk
    client.connect (withPort address (UInt16.ofNat request.url.port))
    client.send (ByteArray.mk request.bytes.toArray)
    let received ← receiveAll client .empty
    pure (.ofBytes received.toList)

/-- Wait and give up. -/
def giveUp (milliseconds : Nat) : Async Web.Reply := do
  sleep (.ofNat milliseconds)
  pure .refused

/-- Make an exchange within some time. Encrypted connections are not spoken, and no reply is followed to
another address. -/
def exchange (request : Web.Request) (milliseconds : Nat) : IO Web.Reply := do
  match request.url.authority with
  | none => pure .refused
  | some authority =>
    if request.url.scheme = "https" then pure .refused
    else
      let reply ←
        ((Async.race (converse request authority.host) (giveUp milliseconds)).block).toBaseIO
      pure (reply.toOption.getD .refused)

/-- Write a record, if the log lets it through. -/
def report (filter : Log.Filter) (entry : Log.Record) : IO Unit :=
  if filter.admits entry.level then IO.eprintln entry.line else pure ()

/-- Put the questions of a program to the network. -/
def perform {α : Type} (settings : Settings) : Program Web.network α → IO α
  | .done a => pure a
  | .note entry next => do
    report settings.logFilter entry
    perform settings next
  | .ask (.exchange request) next => do
    let reply ← exchange request (1000 * settings.server.requestTimeoutSeconds.toNat)
    perform settings (next reply)
  | .ask (.pause milliseconds) next => do
    IO.sleep (UInt32.ofNat (min milliseconds.toNat 4294967295))
    perform settings (next ())

/-! ## Serving -/

/-- What changes while the host runs. -/
structure State where
  service : Host.Service Login.surroundings
  directory : Directory

/-- Values of a header. -/
def headerValues (headers : Std.Http.Headers) (name : String) : List String :=
  match Std.Http.Header.Name.ofString? name with
  | none => []
  | some name => ((headers.getAll? name).getD #[]).toList.map fun value => value.value

/-- A request as the host reads it. -/
def readRequest (head : Std.Http.Request.Head) (body : ByteArray) : Host.Request :=
  ⟨toString head.method, toString head.uri, headerValues head.headers "cookie",
    (headerValues head.headers "content-type").head?, body.toList⟩

/-- A request with what is at hand when it arrives. -/
def arrive (request : Host.Request) : IO Host.Arrival := do
  let bytes ← IO.getRandomBytes 16
  let now ← IO.monoNanosNow
  pure ⟨request, Host.SessionId.ofBytes bytes.toList, ⟨now⟩, ⟨now⟩⟩

/-- Serve one request and go on with the state after it. -/
def respond (settings : Settings) (state : Std.Mutex State) (request : Host.Request) :
    IO Host.Response :=
  state.atomically do
    let current ← get
    let arrival ← arrive request
    let program := (current.service.serve arrival).interpret Login.online current.directory
    let ((response, service), directory) ← perform settings program
    set (⟨service, directory⟩ : State)
    pure response

/-- A header that may be absent. -/
def withHeader (builder : Std.Http.Response.Builder) (name : String) (value : Option String) :
    Std.Http.Response.Builder :=
  ((value.bind fun value => builder.header? name value)).getD builder

/-- A response as it is sent. -/
def writeResponse (response : Host.Response) : Async (Std.Http.Response Std.Http.Body.Full) :=
  let status := (Std.Http.Status.ofCode none response.status).getD .internalServerError
  let builder := Std.Http.Response.withStatus status
  let builder := withHeader builder "content-type" response.contentType
  let builder := withHeader builder "set-cookie" (response.cookie.map Host.Cookie.encodedText)
  builder.fromBytes response.body.toUTF8

/-- Answers the requests that the network brings. -/
def handler (settings : Settings) (state : Std.Mutex State) : Std.Http.Server.StatelessHandler :=
  Std.Http.Server.Handler.ofFn fun request => do
    let body : ByteArray ← request.body.readAll
    let response ← respond settings state (readRequest request.line body)
    let sent ← writeResponse response
    pure ⟨sent.line, .ofBody sent.body, sent.extensions⟩

/-- The address to listen at. -/
def bindAddress (settings : Settings) : Async SocketAddress := do
  let host := settings.application.host
  let known :=
    match (IPv4Addr.ofString host).map IPAddr.v4 with
    | some address => some address
    | none => (IPv6Addr.ofString host).map IPAddr.v6
  match known with
  | some address => pure (withPort address settings.application.port)
  | none =>
    match (← DNS.getAddrInfo host "").toList with
    | address :: _ => pure (withPort address settings.application.port)
    | [] => throw (IO.userError "no address to listen at")

/-- Wait until the process is told to stop. -/
def awaitStop : IO Unit := do
  let terminated ← (← Signal.Waiter.mk .sigterm false).wait
  let interrupted ← (← Signal.Waiter.mk .sigint false).wait
  discard (IO.waitAny [terminated, interrupted])

/-- Serve until the process is told to stop. -/
def listen (settings : Settings) (state : Std.Mutex State) : IO Unit := do
  let address ← (bindAddress settings).block
  let serving :=
    Std.Http.Server.serve address (handler settings state) { serverName := none }
  let server ← serving.block
  awaitStop
  server.shutdownAndWait.block

/-- Report why the host does not run. -/
def fail (failure : Host.Startup.Failure) : IO UInt32 := do
  for line in failure.reportLines do IO.eprintln line
  pure failure.exitCode.toUInt32

/-- Serve logins, and let the method go afterwards. -/
def run (settings : Settings) (service : Host.Service Login.surroundings) (directory : Directory) :
    IO UInt32 := do
  let state ← Std.Mutex.new (⟨service, directory⟩ : State)
  let served ← (listen settings state).toBaseIO
  let released ← perform settings (service.flow.destroy.interpret Login.online directory)
  if released.1 then pure () else report settings.logFilter Host.Startup.heldRecord
  match served with
  | .ok () => pure 0
  | .error problem => fail (.listening (toString problem))

/-- Start with loaded settings. -/
def start (settings : Settings) : IO UInt32 := do
  let directory := Directory.ofSeeds settings.users
  report settings.logFilter directory.loadedRecord
  let (made, directory) ←
    perform settings ((Host.Startup.service settings).interpret Login.online directory)
  match made with
  | .error (.login failure) => fail (.login failure)
  | .error failure => do
    for line in Host.Startup.banner settings do IO.println line
    fail failure
  | .ok service => do
    for line in Host.Startup.banner settings do IO.println line
    run settings service directory

end TwoStepLogin.Terminal

/-- The host as a program. -/
def main : IO UInt32 := do
  let loaded ← TwoStepLogin.Terminal.loadSettings
  for line in loaded.printed do IO.println line
  match loaded.outcome with
  | .error failure => TwoStepLogin.Terminal.fail (.settings failure)
  | .ok settings => TwoStepLogin.Terminal.start settings
