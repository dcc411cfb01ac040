import TwoStepLogin.Login.Session

/-!
# The sessions of a host

All logins in progress, by session identifier. A session lives in a cell that is reached by a
handle; the handle stays good after the session has left the table. A session that someone holds is
not looked into by others.

* `Host.SessionTable` — the cells, the table of identifiers, and how old a session may become;
* `Host.SessionTable.ofMinutes?` — an empty table, unless the age cannot be represented;
* `Host.SessionTable.create` — a new session; sessions that are too old are swept out first;
* `Host.SessionTable.find` — a session that is not too old;
* `Host.SessionTable.remove` — take a session out of the table.
-/

set_option autoImplicit false

namespace TwoStepLogin.Host

/-- Names a cell. -/
abbrev Handle := Nat

/-- A session in memory. -/
structure Cell where
  session : Session
  held : Bool
  deriving DecidableEq, Repr

/-- The sessions of a host. -/
structure SessionTable where
  /-- The greatest age of a session. -/
  timeout : Span
  /-- Every cell ever made; a handle is a position. -/
  cells : List Cell
  /-- The sessions that can be found, by identifier. -/
  live : List (String × Handle)
  deriving DecidableEq, Repr

namespace SessionTable

/-- Minutes beyond this bound, of either sign, are no age. -/
def greatestMinutes : Int := 153722867280912

/-- A table without sessions. -/
def empty (timeout : Span) : SessionTable := ⟨timeout, [], []⟩

/-- A table whose sessions may become this many minutes old. -/
def ofMinutes? (minutes : Int64) : Option SessionTable :=
  if minutes.toInt.natAbs ≤ greatestMinutes.natAbs then
    some (empty (.ofMinutes minutes.toInt))
  else none

/-- The cell of a handle. -/
def cell? (t : SessionTable) (handle : Handle) : Option Cell := t.cells[handle]?

/-- The session of a handle. -/
def session? (t : SessionTable) (handle : Handle) : Option Session :=
  (t.cell? handle).map Cell.session

/-- Whether someone holds the session. -/
def isHeld (t : SessionTable) (handle : Handle) : Bool :=
  match t.cell? handle with
  | some cell => cell.held
  | none => false

/-- Change the cell of a handle. -/
def modify (t : SessionTable) (handle : Handle) (change : Cell → Cell) : SessionTable :=
  { t with cells := t.cells.modify handle change }

/-- Write the session of a handle. -/
def write (t : SessionTable) (handle : Handle) (session : Session) : SessionTable :=
  t.modify handle fun cell => { cell with session := session }

/-- Begin to hold a session. -/
def hold (t : SessionTable) (handle : Handle) : SessionTable :=
  t.modify handle fun cell => { cell with held := true }

/-- Stop holding a session. -/
def release (t : SessionTable) (handle : Handle) : SessionTable :=
  t.modify handle fun cell => { cell with held := false }

/-- Number of sessions that can be found. -/
def size (t : SessionTable) : Nat := t.live.length

/-- Whether a session is too old. -/
def isExpired (t : SessionTable) (now : Instant) (session : Session) : Bool :=
  (now.since session.createdAt).exceeds t.timeout

/-- Whether a sweep leaves the session of a handle: someone holds it or it is not too old. -/
def survives (t : SessionTable) (now : Instant) (handle : Handle) : Bool :=
  match t.cell? handle with
  | some cell => cell.held || !t.isExpired now cell.session
  | none => false

/-- The entries that a sweep leaves. -/
def sweep (t : SessionTable) (now : Instant) : SessionTable :=
  { t with live := t.live.filter fun entry => t.survives now entry.2 }

/-- Put a handle under an identifier, in the place of an older one. -/
def link (id : String) (handle : Handle) : List (String × Handle) → List (String × Handle)
  | [] => [(id, handle)]
  | (other, old) :: rest =>
    if other = id then (id, handle) :: rest else (other, old) :: link id handle rest

/-- Add a session in a cell of its own. -/
def insert (t : SessionTable) (session : Session) : SessionTable :=
  ⟨t.timeout, t.cells ++ [⟨session, false⟩], link session.id t.cells.length t.live⟩

/-- Take a session out of the table, if it is there. -/
def remove (t : SessionTable) (id : String) : SessionTable :=
  { t with live := t.live.filter fun entry => entry.1 != id }

/-- Whether a session is in the table. -/
def contains (t : SessionTable) (id : String) : Bool := t.live.any fun entry => entry.1 == id

/-- The sessions that can be found, with their identifiers. -/
def registered (t : SessionTable) : List (String × Session) :=
  t.live.filterMap fun entry => (t.session? entry.2).map fun session => (entry.1, session)

/-- Said when sessions were swept out. -/
def droppedRecord (count : Nat) : Log.Record :=
  .info ("Dropped " ++ toString count ++ " expired login session(s)")

/-- Said of a new session. -/
def createdRecord (id : String) : Log.Record := .debug ("Created login session " ++ id)

/-- Said of a session found too old. -/
def expiredRecord (id : String) : Log.Record :=
  .info ("Login session " ++ id ++ " expired before completion")

/-- A new session, made at `created`, after a sweep at `now`. -/
def create {I : Interface} (t : SessionTable) (id : String) (created now : Instant) :
    Program I (Handle × SessionTable) := do
  let swept := t.sweep now
  let dropped := t.size - swept.size
  if dropped > 0 then Program.log (droppedRecord dropped) else pure ()
  Program.log (createdRecord id)
  pure (t.cells.length, swept.insert (.start id created))

/-- The handle of a session that is in the table and not too old; one that is too old is taken out. -/
def find {I : Interface} (t : SessionTable) (id : String) (now : Instant) :
    Program I (Option Handle × SessionTable) :=
  match t.live.lookup id with
  | none => pure (none, t)
  | some handle =>
    match t.session? handle with
    | none => pure (none, t)
    | some session =>
      if t.isExpired now session then do
        Program.log (expiredRecord id)
        pure (none, t.remove id)
      else pure (some handle, t)

/-! ## Reading after writing -/

theorem lookup_link (id : String) (handle : Handle) (live : List (String × Handle)) (other : String) :
    (link id handle live).lookup other = if other = id then some handle else live.lookup other := by
  induction live with
  | nil => simp only [link, List.lookup_cons, List.lookup_nil]; grind
  | cons entry rest ih =>
    obtain ⟨key, old⟩ := entry
    unfold link
    split <;> simp only [List.lookup_cons, ih] <;> grind

theorem session?_insert_self (t : SessionTable) (session : Session) :
    (t.insert session).session? t.cells.length = some session := by
  simp [insert, session?, cell?]

theorem session?_insert_of_lt (t : SessionTable) (session : Session) {handle : Handle}
    (h : handle < t.cells.length) : (t.insert session).session? handle = t.session? handle := by
  simp [insert, session?, cell?, List.getElem?_append_left h]

theorem isExpired_iff (t : SessionTable) (now : Instant) (session : Session) :
    t.isExpired now session = true ↔
      t.timeout.nanoseconds < now.nanoseconds - session.createdAt.nanoseconds :=
  Span.exceeds_iff _ _

end SessionTable

end TwoStepLogin.Host
