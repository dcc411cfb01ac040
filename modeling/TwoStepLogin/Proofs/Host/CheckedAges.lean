import Mathlib.Algebra.Group.Nat.Defs
import TwoStepLogin.Proofs.Host.TableAccess

/-!
# Ages that can be represented

The age of a session is a difference of two dates, and a table compares it with a number of minutes.
Neither dates nor lengths of time are unlimited where they are stored: a calendar has a first and a last
date, and a length of time is a number of milliseconds in a word. Here the table of sessions is
carried out with every operation checked that could leave its range, and aborted where one does. As long
as the clock shows dates, none does, so that the checks make no difference.

* `Instant.IsDate`, `Span.IsDuration` — what can be represented;
* `Instant.since?` — the checked difference, which two dates always have;
* `Host.Access.act?` — an access with its checks;
* `Host.Access.act?_eq_some` — on a table whose sessions were made at dates it does not abort;
* `Host.play?_eq_some` — neither does a run.
-/

set_option autoImplicit false

namespace TwoStepLogin

/-- A point in time that the calendar has. It goes back and forth by less than `2 ^ 43` seconds, some
278000 years, from the origin. -/
def Instant.IsDate (t : Instant) : Prop := t.nanoseconds.natAbs < 2 ^ 43 * 10 ^ 9

/-- A length of time whose milliseconds fit 64 bits with a sign. -/
def Span.IsDuration (s : Span) : Prop := s.nanoseconds.natAbs ≤ (2 ^ 63 - 1) * 10 ^ 6

instance : DecidablePred Instant.IsDate := fun _ => inferInstanceAs (Decidable (_ < _))

instance : DecidablePred Span.IsDuration := fun _ => inferInstanceAs (Decidable (_ ≤ _))

/-- The time from `earlier` to `now`, unless it cannot be represented. -/
def Instant.since? (now earlier : Instant) : Option Span :=
  if (now.since earlier).IsDuration then some (now.since earlier) else none

/-- Two dates have a difference. -/
theorem Instant.since?_eq_some {now earlier : Instant} (hnow : now.IsDate) (hearlier : earlier.IsDate) :
    now.since? earlier = some (now.since earlier) := by
  refine if_pos ?_
  simp only [Span.IsDuration, Instant.since, Instant.IsDate] at *
  omega

/-- A number less another one, unless this one is greater. -/
def difference? (n m : Nat) : Option Nat := if m ≤ n then some (n - m) else none

section Commands

variable {I : Interface} {C S B σ : Type}

/-- Carry out commands that may abort; nothing comes of a run in which one does. -/
def play? (act? : C → S → Option (Program I (B × S))) (r : Responder I σ) :
    List C → S → σ → Option (List (Turn I C S B))
  | [], _, _ => some []
  | c :: rest, s, w =>
    (act? c s).bind fun program =>
      let o := program.run r w
      (play? act? r rest o.value.2 o.state).map fun turns =>
        ⟨c, s, o.exchanges, o.value.1, o.value.2⟩ :: turns

/-- Commands that do not abort in the states they are given, and lead to such states only, do not abort
in a run. -/
theorem play?_eq_some {act? : C → S → Option (Program I (B × S))} {act : C → S → Program I (B × S)}
    {Safe : S → Prop} {commands : List C} {s : S}
    (hact : ∀ c ∈ commands, ∀ s, Safe s → act? c s = some (act c s))
    (hkeeps : ∀ c ∈ commands, ∀ s, Safe s → ∀ h reply s', (act c s).Yields h (reply, s') → Safe s')
    (hs : Safe s) (r : Responder I σ) (w : σ) :
    play? act? r commands s w = some (play act r commands s w) := by
  induction commands generalizing s w with
  | nil => rfl
  | cons c commands ih =>
    obtain ⟨hc, hact⟩ := List.forall_mem_cons.1 hact
    obtain ⟨hkeep, hkeeps⟩ := List.forall_mem_cons.1 hkeeps
    have hafter := hkeep s hs _ _ _ (Program.yields_run r (act c s) w)
    rw [play?, hc s hs, Option.bind_some]
    dsimp only
    rw [ih hact hkeeps hafter, Option.map_some]
    rfl

end Commands

namespace Host

variable {I : Interface}

/-! ## The table with its checks -/

namespace SessionTable

/-- Whether a session is too old, unless its age cannot be represented. -/
def isExpired? (t : SessionTable) (now : Instant) (session : Session) : Option Bool :=
  (now.since? session.createdAt).map fun age => age.exceeds t.timeout

/-- Whether a sweep leaves the session of a handle. The age of a session that someone holds is not looked
at. -/
def survives? (t : SessionTable) (now : Instant) (handle : Handle) : Option Bool :=
  match t.cell? handle with
  | some cell => if cell.held then some true else (t.isExpired? now cell.session).map (!·)
  | none => some false

/-- The entries that a sweep leaves, unless it aborts at one of them. -/
def survivors? (t : SessionTable) (now : Instant) :
    List (String × Handle) → Option (List (String × Handle))
  | [] => some []
  | entry :: rest =>
    (t.survives? now entry.2).bind fun stays =>
      (t.survivors? now rest).map fun kept => if stays then entry :: kept else kept

/-- A sweep with its checks. -/
def sweep? (t : SessionTable) (now : Instant) : Option SessionTable :=
  (t.survivors? now t.live).map fun live => { t with live := live }

/-- A new session, with the checks of the sweep and of the number of sessions swept out. -/
def create? (t : SessionTable) (id : String) (created now : Instant) :
    Option (Program I (Handle × SessionTable)) :=
  (t.sweep? now).bind fun swept =>
    (difference? t.size swept.size).map fun dropped => do
      if dropped > 0 then Program.log (droppedRecord dropped) else pure ()
      Program.log (createdRecord id)
      pure (t.cells.length, swept.insert (.start id created))

/-- Look for a session, with the check of its age. -/
def find? (t : SessionTable) (id : String) (now : Instant) :
    Option (Program I (Option Handle × SessionTable)) :=
  match t.live.lookup id with
  | none => some (pure (none, t))
  | some handle =>
    match t.session? handle with
    | none => some (pure (none, t))
    | some session =>
      (t.isExpired? now session).map fun expired =>
        if expired then do
          Program.log (expiredRecord id)
          pure (none, t.remove id)
        else pure (some handle, t)

end SessionTable

/-- Carry out an access with its checks. -/
def Access.act? : Access → SessionTable → Option (Program I (Access.Reply × SessionTable))
  | .create id made now, t =>
    (t.create? id made now).map fun program => do
      let (handle, t) ← program
      pure (.created handle, t)
  | .find id now, t =>
    if t.isLocked id then some (pure (.busy, t))
    else
      (t.find? id now).map fun program => do
        let (found, t) ← program
        pure (.found found, t)
  | a, t => some (a.act t)

/-- The clock shows dates. -/
def Access.IsDated : Access → Prop
  | .create _ made now => made.IsDate ∧ now.IsDate
  | .find _ now => now.IsDate
  | _ => True

instance : DecidablePred Access.IsDated
  | .create _ _ _ => inferInstanceAs (Decidable (_ ∧ _))
  | .find _ now => inferInstanceAs (Decidable now.IsDate)
  | .remove _ | .hold _ | .release _ | .edit _ _ => .isTrue trivial

namespace SessionTable

variable {t t' : SessionTable} {id : String} {handle : Handle} {made now : Instant} {session : Session}

/-- All sessions in memory were made at dates. -/
def Dated (t : SessionTable) : Prop := ∀ cell ∈ t.cells, cell.session.createdAt.IsDate

theorem Dated.of_cell? (h : t.Dated) {cell : Cell} (hc : t.cell? handle = some cell) :
    cell.session.createdAt.IsDate := h cell (List.mem_of_getElem? hc)

theorem Dated.of_session? (h : t.Dated) (hs : t.session? handle = some session) :
    session.createdAt.IsDate := by
  obtain ⟨cell, hc, rfl⟩ := Option.map_eq_some_iff.1 hs
  exact h.of_cell? hc

/-! ## The checks make no difference -/

theorem isExpired?_eq_some (hsession : session.createdAt.IsDate) (hnow : now.IsDate) :
    t.isExpired? now session = some (t.isExpired now session) := by
  rw [isExpired?, Instant.since?_eq_some hnow hsession]
  rfl

/-- A sweep leaves no more sessions than there were, so their difference is a number. -/
theorem difference?_size (t : SessionTable) (now : Instant) :
    difference? t.size (t.sweep now).size = some (t.size - (t.sweep now).size) :=
  if_pos (List.length_filter_le _ _)

namespace Dated

theorem survives?_eq_some (h : t.Dated) (hnow : now.IsDate) (handle : Handle) :
    t.survives? now handle = some (t.survives now handle) := by
  rw [survives?, survives]
  cases hc : t.cell? handle with
  | none => rfl
  | some cell =>
    dsimp only
    cases cell.held with
    | true => rfl
    | false =>
      rw [isExpired?_eq_some (h.of_cell? hc) hnow]
      rfl

theorem survivors?_eq_some (h : t.Dated) (hnow : now.IsDate) (live : List (String × Handle)) :
    t.survivors? now live = some (live.filter fun entry => t.survives now entry.2) := by
  induction live with
  | nil => rfl
  | cons entry rest ih =>
    rw [survivors?, h.survives?_eq_some hnow, ih, Option.bind_some, Option.map_some, List.filter_cons]

theorem sweep?_eq_some (h : t.Dated) (hnow : now.IsDate) : t.sweep? now = some (t.sweep now) := by
  rw [sweep?, h.survivors?_eq_some hnow]
  rfl

theorem create?_eq_some (h : t.Dated) (hnow : now.IsDate) :
    t.create? id made now = some (t.create id made now : Program I _) := by
  rw [create?, h.sweep?_eq_some hnow, Option.bind_some, difference?_size]
  rfl

theorem find?_eq_some (h : t.Dated) (hnow : now.IsDate) :
    t.find? id now = some (t.find id now : Program I _) := by
  rw [find?, SessionTable.find]
  cases t.live.lookup id with
  | none => rfl
  | some handle =>
    dsimp only
    cases hs : t.session? handle with
    | none => rfl
    | some session =>
      dsimp only
      rw [isExpired?_eq_some (h.of_session? hs) hnow]
      rfl

/-! ## What accesses leave -/

theorem insert (h : t.Dated) (hsession : session.createdAt.IsDate) : (t.insert session).Dated :=
  List.forall_mem_append.2 ⟨h, List.forall_mem_singleton.2 hsession⟩

/-- No change of a cell changes when its session was made. -/
theorem modify (h : t.Dated) (handle : Handle) {change : Cell → Cell}
    (hchange : ∀ cell, (change cell).session.createdAt = cell.session.createdAt) :
    (t.modify handle change).Dated := by
  intro cell hcell
  obtain ⟨place, hplace⟩ := List.mem_iff_getElem?.1 hcell
  rw [SessionTable.modify, List.getElem?_modify, Option.map_eq_map, Option.map_eq_some_iff] at hplace
  obtain ⟨old, hold, rfl⟩ := hplace
  split
  · rw [hchange]
    exact h.of_cell? hold
  · exact h.of_cell? hold

/-- Looking for a session leaves the cells alone. -/
theorem find (h : t.Dated) {e : List (Exchange I)} {found : Option Handle}
    (hy : (t.find id now : Program I (Option Handle × SessionTable)).Yields e (found, t')) :
    t'.Dated := by
  unfold SessionTable.find at hy
  split at hy
  · cases hy.2
    exact h
  · split at hy
    · cases hy.2
      exact h
    · split at hy
      · cases hy.2
        exact h
      · cases hy.2
        exact h

end Dated

end SessionTable

namespace Access

variable {t t' : SessionTable} {a : Access}

/-- An access at a date does not abort. -/
theorem act?_eq_some (ht : t.Dated) (ha : a.IsDated) :
    a.act? t = some (a.act t : Program I (Reply × SessionTable)) := by
  cases a with
  | create id made now =>
    rw [act?, ht.create?_eq_some ha.2]
    rfl
  | find id now =>
    rw [act?, act, ht.find?_eq_some ha]
    split <;> rfl
  | remove _ | hold _ | release _ | edit _ _ => rfl

/-- An access at a date leaves sessions that were made at dates. -/
theorem dated_of_act (ht : t.Dated) (ha : a.IsDated) {e : List (Exchange I)} {reply : Reply}
    (hy : (a.act t).Yields e (reply, t')) : t'.Dated := by
  cases a with
  | create id made now =>
    obtain ⟨⟨handle, left⟩, _, _, rfl, hcreate, rfl, he⟩ := Program.yields_bind.1 hy
    obtain ⟨-, -, rfl⟩ := create_yields hcreate
    cases he
    exact SessionTable.Dated.insert (t := t.sweep now) ht ha.1
  | find id now =>
    simp only [act] at hy
    split at hy
    · cases hy.2
      exact ht
    · obtain ⟨⟨found, left⟩, _, _, rfl, hfind, rfl, he⟩ := Program.yields_bind.1 hy
      cases he
      exact ht.find hfind
  | remove id =>
    cases hy.2
    exact ht
  | hold handle =>
    simp only [act] at hy
    split at hy
    · cases hy.2
      exact ht
    · cases hy.2
      exact ht.modify handle fun _ => rfl
  | release handle =>
    cases hy.2
    exact ht.modify handle fun _ => rfl
  | edit handle change =>
    cases hy.2
    exact ht.modify handle fun cell => change.createdAt_eq cell.session

/-- Accesses at dates, starting from an empty table, do not abort. -/
theorem play?_empty {σ : Type} {accesses : List Access} (h : ∀ a ∈ accesses, a.IsDated) (timeout : Span)
    (r : Responder I σ) (w : σ) : play? act? r accesses (.empty timeout) w =
      some (play act r accesses (.empty timeout) w) := by
  have hact : ∀ a ∈ accesses, ∀ t : SessionTable, t.Dated →
      a.act? t = some (a.act t : Program I (Reply × SessionTable)) :=
    fun a ha _ ht => act?_eq_some ht (h a ha)
  have hkeeps : ∀ a ∈ accesses, ∀ t : SessionTable, t.Dated → ∀ e reply t',
      (a.act t : Program I (Reply × SessionTable)).Yields e (reply, t') → t'.Dated :=
    fun a ha _ ht _ _ _ hy => dated_of_act ht (h a ha) hy
  have hempty : (SessionTable.empty timeout).Dated := nofun
  exact play?_eq_some hact hkeeps hempty r w

end Access

end Host

end TwoStepLogin
