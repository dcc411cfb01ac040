import TwoStepLogin.Login.Surroundings
import TwoStepLogin.Rehearsal.ScriptedServer

/-!
# The stage of a rehearsal

* `Stage` — a directory that may refuse to answer, and a scripted FIDO server;
* `Stage.responder` — they answer the questions of a login;
* `Stage.calls`, `Stage.gaps`, `Stage.waited` — what the events of a rehearsal show.
-/

set_option autoImplicit false

namespace TwoStepLogin

open Login (Question surroundings)

/-- In what a directory fails. -/
inductive Stage.DirectoryFault where
  /-- No user is found. -/
  | noUser
  | userLookup
  | deviceLookup
  | recording
  /-- Recording does nothing. -/
  | readOnly
  deriving DecidableEq, Repr

/-- The parties of a rehearsal. -/
structure Stage where
  directory : Directory
  faults : List Stage.DirectoryFault
  server : ScriptedServer

namespace Stage

/-- The answer of a directory with faults, and the directory afterwards. -/
def ask (faults : List DirectoryFault) :
    (query : Directory.Query) → Directory → query.Answer × Directory
  | .authenticate userName password, d => d.respond (.authenticate userName password)
  | .findUser userName, d =>
    if faults.contains .noUser then (.ok none, d)
    else if faults.contains .userLookup then (.error (.unknownInum userName), d)
    else d.respond (.findUser userName)
  | .findDevices userInum applicationId, d =>
    if faults.contains .deviceLookup then (.error (.unknownInum userInum), d)
    else d.respond (.findDevices userInum applicationId)
  | .record registration, d =>
    if faults.contains .readOnly then (.ok (), d)
    else if faults.contains .recording then (.error (.unknownInum registration.userInum), d)
    else d.respond (.record registration)

/-- The parties answer; waiting costs nothing. -/
def responder : Responder surroundings Stage where
  respond
    | .directory query, s =>
      let answered := ask s.faults query s.directory
      (answered.1, { s with directory := answered.2 })
    | .fido call, s =>
      let answered := s.server.answer call
      (answered.1, { s with server := answered.2 })
    | .pause _, s => ((), s)

/-- The calls to the server, in order. -/
def calls (questions : List Question) : List Fido.Call :=
  questions.filterMap fun
    | .fido call => some call
    | _ => none

/-- Milliseconds of a question: how long it waits. -/
def duration : Question → Nat
  | .pause milliseconds => milliseconds.toNat
  | _ => 0

/-- Whether a question fetches the server's configuration. -/
def isFetch : Question → Bool
  | .fido (.fetchMetadata _) => true
  | _ => false

/-- Milliseconds spent waiting. -/
def waited (questions : List Question) : Nat := (questions.map duration).foldl (· + ·) 0

/-- Milliseconds between one fetch and the next, given the time since the last fetch, if any. -/
def gapsSince : Option Nat → List Question → List Nat
  | _, [] => []
  | since, question :: rest =>
    if isFetch question then since.toList ++ gapsSince (some 0) rest
    else gapsSince (since.map (· + duration question)) rest

/-- Milliseconds between one fetch and the next. -/
def gaps (questions : List Question) : List Nat := gapsSince none questions

end Stage

end TwoStepLogin
