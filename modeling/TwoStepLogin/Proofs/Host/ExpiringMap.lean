import TwoStepLogin.Proofs.Host.TableHistory
import TwoStepLogin.Proofs.Login.DeviceFlow

/-!
# The table of sessions as a map

A table answers as a map would whose entries expire. Which sweeps took place in between cannot be
told from the answers: a session that was swept out would be too old to be found anyway.

* `Host.NewIds`, `Host.Advances` — what is expected of the accesses;
* `Host.ActsAsMap` — what an access answers and leaves, in terms of the accesses before it;
* `Host.Tracks.found_iff` — what can be found;
* `Host.Accessed.keeps_on_create`, `Host.Accessed.sweeps_on_create` — what a new session does to others;
* `Host.table_is_an_expiring_map` — every access of every run acts as on a map.
-/

set_option autoImplicit false

namespace TwoStepLogin.Host

/-- New identifiers are new. -/
def NewIds (accesses : List Access) : Prop := (accesses.filterMap Access.newId?).Nodup

/-- Whenever the age of sessions is looked at, time has not gone back. -/
def Advances (accesses : List Access) : Prop :=
  (accesses.filterMap Access.now?).Pairwise fun a b => a.nanoseconds ≤ b.nanoseconds

instance : DecidablePred NewIds := fun _ => inferInstanceAs (Decidable (List.Nodup _))

instance : DecidablePred Advances := fun _ => inferInstanceAs (Decidable (List.Pairwise _ _))

variable {I : Interface}

/-- What an access to a table answers and leaves. Before it, identifiers were given out and taken out
`earlier`; after it come the `later` turns. -/
structure ActsAsMap (timeout : Span) (earlier : List (TableTurn I)) (t : TableTurn I)
    (later : List (TableTurn I)) : Prop where
  /-- A session that nobody holds is found if its handle was given out, it was not taken out since, and
  its age is within the limit. Nothing else is found. -/
  found_iff : ∀ id now, t.command = .find id now → t.before.isLocked id = false →
    ∃ found, t.reply = .found found ∧ ∀ handle, found = some handle ↔
      ∃ made since, GivenOut earlier id handle made since ∧ NotRemoved id since ∧
        (now.since made).exceeds timeout = false
  /-- What was written through a handle can be read, in the order in which it was written. -/
  contents : ∀ id handle made since, GivenOut (earlier ++ [t]) id handle made since →
    t.after.session? handle = some (Edit.applyAll (editsThrough handle since) (.start id made))
  /-- No two identifiers share a handle. -/
  own : ∀ id other handle made made' since since', GivenOut (earlier ++ [t]) id handle made since →
    GivenOut (earlier ++ [t]) other handle made' since' → id = other
  /-- A new session is in the table under its handle. -/
  creates : ∀ id made now, t.command = .create id made now →
    ∃ handle, t.reply = .created handle ∧ t.after.handle? id = some handle
  /-- A new session drops no other that someone holds or that is not too old. -/
  create_keeps : ∀ id made now other handle session, t.command = .create id made now →
    t.before.handle? other = some handle → t.before.session? handle = some session →
    t.before.isHeld handle = true ∨ (now.since session.createdAt).exceeds timeout = false →
    t.after.handle? other = some handle
  /-- With a new session all others that nobody holds and that are too old are gone. -/
  create_sweeps : ∀ id made now other handle, t.command = .create id made now → other ≠ id →
    t.after.handle? other = some handle → t.after.isHeld handle = false →
    ∃ session, t.after.session? handle = some session ∧
      (now.since session.createdAt).exceeds timeout = false
  /-- A session that is looked for and found too old is taken out, and no other. -/
  find_drops : ∀ id now handle session, t.command = .find id now → t.before.isLocked id = false →
    t.before.handle? id = some handle → t.before.session? handle = some session →
    (now.since session.createdAt).exceeds timeout = true →
    t.reply = .found none ∧ t.after.handle? id = none ∧
      ∀ other, other ≠ id → t.after.handle? other = t.before.handle? other
  /-- What is taken out was in the table, and is not any more. -/
  removed_iff : ∀ id, t.command = .remove id → ∃ there, t.reply = .removed there ∧
    (there = true ↔ ∃ handle, t.before.handle? id = some handle) ∧ t.after.handle? id = none
  /-- An identifier that was given out and is not in the table never comes back. -/
  gone_for_good : ∀ id handle made since, GivenOut (earlier ++ [t]) id handle made since →
    t.after.handle? id = none → ∀ u ∈ later, u.after.handle? id = none

variable {t t' : SessionTable} {a : Access} {reply : Access.Reply} {timeout : Span}
  {turns since : List (TableTurn I)} {id other : String} {handle : Handle}
  {made now : Instant} {session : Session}

/-! ## What can be found -/

/-- What was too old at some time is too old at any later time. -/
theorem Outlived.exceeds (h : Outlived timeout made turns)
    (hnow : ∀ u ∈ turns, ∀ past, u.command.now? = some past → past.nanoseconds ≤ now.nanoseconds) :
    (now.since made).exceeds timeout = true := by
  obtain ⟨u, hu, past, hpast, hx⟩ := h
  have hle := hnow u hu past hpast
  rw [Span.exceeds_iff] at hx ⊢
  simp only [Instant.since] at hx ⊢
  omega

namespace Tracks

/-- A session that is in the table and not too old is the one that was made under the identifier and
not taken out since. -/
theorem found_iff (h : Tracks timeout turns t)
    (hnow : ∀ u ∈ turns, ∀ past, u.command.now? = some past → past.nanoseconds ≤ now.nanoseconds) :
    (∃ session, t.handle? id = some handle ∧ t.session? handle = some session ∧
        t.isExpired now session = false) ↔
      ∃ made since, GivenOut turns id handle made since ∧ NotRemoved id since ∧
        (now.since made).exceeds timeout = false := by
  constructor
  · rintro ⟨session, hl, hs, hx⟩
    obtain ⟨made, since, hg, hr⟩ := h.registered hl
    obtain rfl := Option.some.inj (hs.symm.trans (h.contents hg))
    rw [SessionTable.isExpired, h.timeout_eq, Edit.createdAt_applyAll] at hx
    exact ⟨made, since, hg, hr, hx⟩
  · rintro ⟨made, since, hg, hr, hx⟩
    refine ⟨_, ?_, h.contents hg, ?_⟩
    · -- Had it been swept out, it would be too old by now.
      refine (h.kept hg hr).resolve_right fun hout => ?_
      obtain ⟨front, opened, now', rfl, -, -⟩ := hg
      have hexceeds := hout.exceeds fun u hu => hnow u (by simp [hu])
      exact Bool.false_ne_true (hx.symm.trans hexceeds)
    · rw [SessionTable.isExpired, h.timeout_eq, Edit.createdAt_applyAll]
      exact hx

end Tracks

namespace Accessed

/-- Looking for a session that nobody holds answers what is in the table and not too old. -/
theorem found_of_find (h : Accessed t (.find id now) reply t') (hl : t.isLocked id = false) :
    ∃ found, reply = .found found ∧ ∀ handle, found = some handle ↔
      ∃ session, t.handle? id = some handle ∧ t.session? handle = some session ∧
        t.isExpired now session = false := by
  cases h with
  | awaited hlocked => cases hl.symm.trans hlocked
  | missing hnone => exact ⟨none, rfl, fun handle => by simp [hnone]⟩
  | @expired _ _ handle session hhandle hsession hx =>
    refine ⟨none, rfl, fun place => ⟨nofun, ?_⟩⟩
    rintro ⟨old, hplace, hold, hfresh⟩
    obtain rfl := Option.some.inj (hhandle.symm.trans hplace)
    obtain rfl := Option.some.inj (hsession.symm.trans hold)
    cases hx.symm.trans hfresh
  | @found _ _ handle session hhandle hsession hx =>
    refine ⟨some handle, rfl, fun place => ⟨?_, ?_⟩⟩
    · rintro ⟨⟩
      exact ⟨session, hhandle, hsession, hx⟩
    · rintro ⟨old, hplace, -, -⟩
      exact hhandle.symm.trans hplace

/-- Looking for a session that is too old takes it out. -/
theorem dropped_of_find (h : Accessed t (.find id now) reply t') (hd : t.Distinct)
    (hl : t.isLocked id = false) (hh : t.handle? id = some handle)
    (hs : t.session? handle = some session) (hx : t.isExpired now session = true) :
    reply = .found none ∧ t'.handle? id = none ∧
      ∀ other, other ≠ id → t'.handle? other = t.handle? other := by
  cases h with
  | awaited hlocked => cases hl.symm.trans hlocked
  | missing hnone => cases hnone.symm.trans hh
  | expired hhandle hsession _ =>
    refine ⟨rfl, ?_, fun other hne => ?_⟩
    · rw [hd.handle?_remove, if_pos rfl]
    · rw [hd.handle?_remove, if_neg hne]
  | found hhandle hsession hfresh =>
    obtain rfl := Option.some.inj (hh.symm.trans hhandle)
    obtain rfl := Option.some.inj (hs.symm.trans hsession)
    cases hx.symm.trans hfresh

/-- Taking out a session says whether it was in the table. -/
theorem removed_of_remove (h : Accessed t (.remove id) reply t') (hd : t.Distinct) :
    ∃ there, reply = .removed there ∧ (there = true ↔ ∃ handle, t.handle? id = some handle) ∧
      t'.handle? id = none := by
  cases h
  exact ⟨_, rfl, SessionTable.contains_iff, by rw [hd.handle?_remove, if_pos rfl]⟩

/-! ## What a new session does to others -/

theorem creates (h : Accessed t (.create id made now) reply t') :
    ∃ handle, reply = .created handle ∧ t'.handle? id = some handle := by
  cases h
  exact ⟨_, rfl, by rw [SessionTable.handle?_insert]; exact if_pos rfl⟩

/-- A new session drops no other that someone holds or that is not too old. -/
theorem keeps_on_create (h : Accessed t (.create id made now) reply t') (hd : t.Distinct)
    (hne : other ≠ id) (hh : t.handle? other = some handle) (hs : t.session? handle = some session)
    (hk : t.isHeld handle = true ∨ t.isExpired now session = false) :
    t'.handle? other = some handle := by
  cases h
  have hne : other ≠ (Session.start id made).id := hne
  rw [SessionTable.handle?_insert, if_neg hne, hd.handle?_sweep, hh, Option.filter_some,
    if_pos ((SessionTable.survives_iff hs).2 hk)]

/-- With a new session all others that nobody holds and that are too old are gone. -/
theorem sweeps_on_create (h : Accessed t (.create id made now) reply t') (hd : t.Distinct)
    (hs : ∀ id handle, t.handle? id = some handle → ∃ session, t.session? handle = some session)
    (hne : other ≠ id) (hh : t'.handle? other = some handle) (hf : t'.isHeld handle = false) :
    ∃ session, t'.session? handle = some session ∧ t.isExpired now session = false := by
  cases h
  have hne : other ≠ (Session.start id made).id := hne
  rw [SessionTable.handle?_insert, if_neg hne, hd.handle?_sweep] at hh
  obtain ⟨hbefore, hsurvives⟩ := Option.filter_eq_some_iff.1 hh
  obtain ⟨session, hs⟩ := hs other handle hbefore
  have hlt : handle < (t.sweep now).cells.length := SessionTable.lt_of_session? hs
  rw [SessionTable.isHeld_insert_of_lt _ _ hlt] at hf
  refine ⟨session, (SessionTable.session?_insert_of_lt _ _ hlt).trans hs, ?_⟩
  refine ((SessionTable.survives_iff hs).1 hsurvives).resolve_left fun hheld => ?_
  exact Bool.false_ne_true (hf.symm.trans hheld)

end Accessed

/-! ## All accesses -/

theorem newIds_map_command :
    NewIds (turns.map Turn.command) ↔ (turns.filterMap fun t => t.command.newId?).Nodup := by
  rw [NewIds, List.filterMap_map]
  rfl

/-- The identifier of an earlier session is not drawn again. -/
theorem NewIds.ne_of_givenOut {more : List (TableTurn I)}
    (hn : NewIds ((turns ++ more).map Turn.command)) (hg : GivenOut turns id handle made since) :
    ∀ u ∈ more, u.command.newId? ≠ some id := by
  intro u hu hid
  rw [newIds_map_command, List.filterMap_append, List.nodup_append] at hn
  exact hn.2.2 id hg.newId_mem id (List.mem_filterMap.2 ⟨u, hu, hid⟩) rfl

/-- Time has not gone back since any earlier look at the age of sessions. -/
theorem Advances.le_of_split {u : TableTurn I}
    (ha : Advances ((turns ++ u :: since).map Turn.command)) (hu : u.command.now? = some now) :
    ∀ v ∈ turns, ∀ past, v.command.now? = some past → past.nanoseconds ≤ now.nanoseconds := by
  intro v hv past hpast
  rw [Advances, List.map_append, List.filterMap_append, List.pairwise_append] at ha
  exact ha.2.2 past (List.mem_filterMap.2 ⟨v.command, List.mem_map_of_mem hv, hpast⟩) now
    (by simp [hu])

/-- An access to a table that is on track acts as on a map. -/
theorem Tracks.actsAsMap {earlier later : List (TableTurn I)} {u : TableTurn I}
    (h : Tracks timeout earlier u.before) (h' : Tracks timeout (earlier ++ [u]) u.after)
    (ha : Accessed u.before u.command u.reply u.after)
    (hn : NewIds ((earlier ++ u :: later).map Turn.command))
    (hnow : Advances ((earlier ++ u :: later).map Turn.command))
    (hlater : ∀ id, u.after.handle? id = none → (∀ v ∈ later, v.command.newId? ≠ some id) →
      ∀ v ∈ later, v.after.handle? id = none) : ActsAsMap timeout earlier u later where
  found_iff id now hcommand hl := by
    have hle := hnow.le_of_split (by rw [hcommand]; rfl)
    rw [hcommand] at ha
    obtain ⟨found, hreply, hfound⟩ := ha.found_of_find hl
    exact ⟨found, hreply, fun handle => (hfound handle).trans (h.found_iff hle)⟩
  contents _ _ _ _ hg := h'.contents hg
  own _ _ _ _ _ _ _ hg hg' := h'.own hg hg'
  creates id made now hcommand := by
    rw [hcommand] at ha
    exact ha.creates
  create_keeps id made now other handle session hcommand hh hs hk := by
    obtain ⟨_, _, hg, -⟩ := h.registered hh
    have hne := hn.ne_of_givenOut hg u List.mem_cons_self
    rw [hcommand] at ha hne
    rw [← h.timeout_eq] at hk
    exact ha.keeps_on_create h.distinct (fun he => hne (congrArg some he.symm)) hh hs hk
  create_sweeps id made now other handle hcommand hne hh hf := by
    rw [hcommand] at ha
    obtain ⟨session, hs, hx⟩ :=
      ha.sweeps_on_create h.distinct (fun _ _ => h.exists_session) hne hh hf
    rw [SessionTable.isExpired, h.timeout_eq] at hx
    exact ⟨session, hs, hx⟩
  find_drops id now handle session hcommand hl hh hs hx := by
    rw [hcommand] at ha
    rw [← h.timeout_eq] at hx
    exact ha.dropped_of_find h.distinct hl hh hs hx
  removed_iff id hcommand := by
    rw [hcommand] at ha
    exact ha.removed_of_remove h.distinct
  gone_for_good id handle made since hg hgone := by
    rw [List.append_cons] at hn
    exact hlater id hgone (hn.ne_of_givenOut hg)

/-- Sessions are made, looked for, taken out, held, released and written to in any order. As long as
new identifiers are new and time does not go back, every access acts as on a map whose entries expire,
for every limit on their age that can be set. -/
theorem table_is_an_expiring_map {σ : Type} {minutes : Int64} {table : SessionTable}
    {accesses : List Access} {earlier later : List (TableTurn I)} {u : TableTurn I}
    (htable : SessionTable.ofMinutes? minutes = some table) (hn : NewIds accesses)
    (hnow : Advances accesses) (r : Responder I σ) (w : σ)
    (hturns : play Access.act r accesses table w = earlier ++ u :: later) :
    ActsAsMap (.ofMinutes minutes.toInt) earlier u later := by
  obtain rfl : SessionTable.empty (.ofMinutes minutes.toInt) = table := by
    unfold SessionTable.ofMinutes? at htable
    split at htable
    · exact Option.some.inj htable
    · cases htable
  have hplay := played_play Access.act r accesses (.empty (.ofMinutes minutes.toInt)) w
  rw [hturns] at hplay
  rw [← map_command_play Access.act r accesses (.empty (.ofMinutes minutes.toInt)) w, hturns]
    at hn hnow
  obtain ⟨-, hall⟩ := tracks_of_played hplay (newIds_map_command.1 hn)
  obtain ⟨hearlier, hu, hlater⟩ := hplay.split rfl
  have hsub : (earlier ++ [u]).Sublist (earlier ++ u :: later) := by simp
  have hn' := (newIds_map_command.1 hn).sublist (hsub.filterMap _)
  have hfront := (List.sublist_append_left earlier [u]).filterMap fun t => t.command.newId?
  have htracks := (tracks_of_played hearlier (hn'.sublist hfront)).1
  have htracks' := (tracks_of_played (hearlier.snoc hu) hn').1
  refine htracks.actsAsMap htracks' (hall u (by simp)) hn hnow fun id hgone hnew => ?_
  have hafter : ∀ v ∈ later, Accessed v.before v.command v.reply v.after :=
    fun v hv => hall v (by simp [hv])
  exact (absent_of_played hlater htracks'.distinct hafter hnew hgone).2.2

/-- A session is held while another one is made, and looked for when it is free again. -/
def heldAccesses : List Access :=
  [.create "first" ⟨0⟩ ⟨0⟩, .hold 0, .create "second" ⟨1⟩ ⟨1⟩, .release 0, .find "second" ⟨1⟩,
    .find "first" ⟨1⟩]

/-- The session that was held escapes the sweep, but it is not found. -/
theorem held_session_expires_when_free :
    let turns := play Access.act Login.obliging heldAccesses (.empty (.ofMinutes (0 : Int64).toInt)) ()
    ∃ earlier u, turns = earlier ++ u :: [] ∧ u.before.handle? "first" = some 0 ∧
      u.reply = .found none ∧ ActsAsMap (.ofMinutes (0 : Int64).toInt) earlier u [] := by
  intro turns
  have hnew : NewIds heldAccesses := by decide
  have htime : Advances heldAccesses := by decide
  have htable : SessionTable.ofMinutes? 0 = some (.empty (.ofMinutes (0 : Int64).toInt)) := by decide
  have hsplit : turns = turns.take 5 ++ turns[5] :: [] := rfl
  exact ⟨turns.take 5, turns[5], hsplit, rfl, rfl,
    table_is_an_expiring_map htable hnew htime Login.obliging () hsplit⟩

end TwoStepLogin.Host
