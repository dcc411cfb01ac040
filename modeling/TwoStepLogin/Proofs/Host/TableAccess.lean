import TwoStepLogin.Proofs.Effect.Play
import TwoStepLogin.Proofs.Host.ServiceSteps

/-!
# What can be done with the table of sessions

Sessions are made, looked for and taken out. A session that was found can be held, and whoever has
its handle can write to it, also when it is no longer in the table. Looking for a session that someone
holds means waiting, so nothing comes of it as long as the session is held.

* `Host.Access`, `Host.Access.act` — what can be done, and what it does;
* `Host.SessionTable.handle?` — the table as a map from identifiers to handles;
* `Host.Accessed` — the ends of an access, in terms of this map;
* `Host.access_yields` — there are no others.
-/

set_option autoImplicit false

namespace TwoStepLogin.Host

/-- A change of a session. When the session was made cannot be changed. -/
structure Edit where
  apply : Session → Session
  createdAt_eq (s : Session) : (apply s).createdAt = s.createdAt

/-- Make several changes in order. -/
def Edit.applyAll (edits : List Edit) (s : Session) : Session := edits.foldl (fun s e => e.apply s) s

theorem Edit.createdAt_applyAll (edits : List Edit) (s : Session) :
    (applyAll edits s).createdAt = s.createdAt := by
  induction edits generalizing s with
  | nil => rfl
  | cons e rest ih => exact (ih (e.apply s)).trans (e.createdAt_eq s)

theorem Edit.applyAll_append (edits more : List Edit) (s : Session) :
    applyAll (edits ++ more) s = applyAll more (applyAll edits s) := List.foldl_append

/-- What can be done with a table of sessions. -/
inductive Access where
  /-- Make a session under a new identifier; it is made a little before the table is swept. -/
  | create (id : String) (made now : Instant)
  | find (id : String) (now : Instant)
  | remove (id : String)
  | hold (handle : Handle)
  | release (handle : Handle)
  | edit (handle : Handle) (change : Edit)

/-- What comes of it. -/
inductive Access.Reply where
  | created (handle : Handle)
  | found (handle : Option Handle)
  | removed (there : Bool)
  /-- Someone holds the session, the access has to wait. -/
  | busy
  | done
  deriving DecidableEq, Repr

namespace Access

/-- The identifier that is drawn for a new session. -/
def newId? : Access → Option String
  | create id _ _ => some id
  | _ => none

/-- When the age of sessions is looked at. -/
def now? : Access → Option Instant
  | create _ _ now => some now
  | find _ now => some now
  | _ => none

/-- The change that is written through a handle. -/
def editOf? (handle : Handle) : Access → Option Edit
  | edit place change => if place = handle then some change else none
  | _ => none

end Access

namespace SessionTable

/-- The handle of the session that is in the table under an identifier. -/
def handle? (t : SessionTable) (id : String) : Option Handle := t.live.lookup id

/-- Whether someone holds the session that is in the table under an identifier. -/
def isLocked (t : SessionTable) (id : String) : Bool := (t.handle? id).any t.isHeld

/-- Write a change to the session of a handle. -/
def applyEdit (t : SessionTable) (handle : Handle) (change : Edit) : SessionTable :=
  t.modify handle fun cell => { cell with session := change.apply cell.session }

end SessionTable

/-- Carry out an access. -/
def Access.act {I : Interface} : Access → SessionTable → Program I (Access.Reply × SessionTable)
  | .create id made now, t => do
    let (handle, t) ← t.create id made now
    pure (.created handle, t)
  | .find id now, t =>
    if t.isLocked id then pure (.busy, t)
    else do
      let (found, t) ← t.find id now
      pure (.found found, t)
  | .remove id, t => pure (.removed (t.contains id), t.remove id)
  | .hold handle, t => pure (if t.isHeld handle then (.busy, t) else (.done, t.hold handle))
  | .release handle, t => pure (.done, t.release handle)
  | .edit handle change, t => pure (.done, t.applyEdit handle change)

namespace SessionTable

variable {t t' : SessionTable} {id other : String} {handle : Handle} {now : Instant}
  {session new : Session}

/-! ## The table as a map -/

/-- No identifier occurs twice. -/
def Distinct (t : SessionTable) : Prop := (t.live.map Prod.fst).Nodup

theorem lookup_filter {live : List (String × Handle)} {keeps : String × Handle → Bool}
    (hd : (live.map Prod.fst).Nodup) :
    (live.filter keeps).lookup id = (live.lookup id).filter fun handle => keeps (id, handle) := by
  induction live with
  | nil => rfl
  | cons entry rest ih =>
    obtain ⟨key, place⟩ := entry
    obtain ⟨hkey, hrest⟩ := List.nodup_cons.1 hd
    by_cases hid : id = key
    · subst hid
      rw [List.lookup_cons_self, Option.filter_some]
      cases hk : keeps (id, place) with
      | true => rw [List.filter_cons_of_pos (by exact hk), List.lookup_cons_self, if_pos rfl]
      | false =>
        -- The only entry of this identifier is gone.
        rw [List.filter_cons_of_neg (by simp [hk]), if_neg (by decide)]
        refine List.lookup_eq_none_iff.2 fun entry hm => ?_
        have hmem : entry.1 ∈ rest.map Prod.fst := List.mem_map_of_mem (List.mem_filter.1 hm).1
        simpa using fun he : id = entry.1 => hkey (he ▸ hmem)
    · have hne : (id == key) = false := by simpa using hid
      rw [List.lookup_cons, hne]
      cases hk : keeps (key, place) with
      | true => rw [List.filter_cons_of_pos (by exact hk), List.lookup_cons, hne, ih hrest]
      | false => rw [List.filter_cons_of_neg (by simp [hk]), ih hrest]

theorem contains_iff : t.contains id = true ↔ ∃ handle, t.handle? id = some handle := by
  constructor
  · intro hc
    cases hl : t.handle? id with
    | some handle => exact ⟨handle, rfl⟩
    | none => rw [contains_of_lookup_eq_none hl] at hc; cases hc
  · rintro ⟨handle, hl⟩
    rw [← Bool.not_eq_false]
    exact fun hf => contains_eq_false_iff.1 hf handle (mem_of_lookup hl)

theorem handle?_insert : (t.insert new).handle? id =
    if id = new.id then some t.cells.length else t.handle? id := lookup_link _ _ _ _

theorem Distinct.handle?_remove (hd : t.Distinct) :
    (t.remove other).handle? id = if id = other then none else t.handle? id := by
  refine (lookup_filter hd).trans ?_
  change (t.handle? id).filter (fun _ => id != other) = _
  by_cases h : id = other
  · cases t.handle? id <;> simp [h]
  · cases t.handle? id <;> simp [h]

/-- A sweep takes out the entries that do not survive it, and no others. -/
theorem Distinct.handle?_sweep (hd : t.Distinct) :
    (t.sweep now).handle? id = (t.handle? id).filter (t.survives now) := lookup_filter hd

theorem survives_iff (hs : t.session? handle = some session) :
    t.survives now handle = true ↔ t.isHeld handle = true ∨ t.isExpired now session = false := by
  obtain ⟨cell, hc, rfl⟩ := Option.map_eq_some_iff.1 hs
  simp [survives, isHeld, hc]

theorem distinct_empty (timeout : Span) : (empty timeout).Distinct := List.nodup_nil

theorem Distinct.remove (hd : t.Distinct) (id : String) : (t.remove id).Distinct :=
  hd.sublist (List.filter_sublist.map _)

theorem Distinct.sweep (hd : t.Distinct) (now : Instant) : (t.sweep now).Distinct :=
  hd.sublist (List.filter_sublist.map _)

theorem keys_link (live : List (String × Handle)) :
    (link id handle live).map Prod.fst =
      if id ∈ live.map Prod.fst then live.map Prod.fst else live.map Prod.fst ++ [id] := by
  induction live with
  | nil => rfl
  | cons entry rest ih =>
    obtain ⟨key, place⟩ := entry
    unfold link
    by_cases hk : key = id
    · simp [hk]
    · simp only [if_neg hk, List.map_cons, ih, List.mem_cons, Ne.symm hk, false_or]
      split <;> rfl

theorem Distinct.insert (hd : t.Distinct) (new : Session) : (t.insert new).Distinct := by
  change ((link new.id t.cells.length t.live).map Prod.fst).Nodup
  rw [keys_link]
  split
  · exact hd
  · rename_i hn
    refine List.nodup_append.2 ⟨hd, List.pairwise_singleton _ _, fun key hkey other hother => ?_⟩
    rw [List.mem_singleton.1 hother]
    exact fun he => hn (he ▸ hkey)

/-! ## Reading cells after writing -/

/-- What becomes of the sessions if the cell of a handle is changed. -/
theorem session?_modify (t : SessionTable) (handle place : Handle) {change : Cell → Cell}
    {f : Session → Session} (hf : ∀ cell, (change cell).session = f cell.session) :
    (t.modify handle change).session? place =
      if place = handle then (t.session? place).map f else t.session? place := by
  by_cases h : place = handle
  · subst h
    simp only [session?, cell?, modify, List.getElem?_modify_eq, if_true]
    cases t.cells[place]? with
    | none => rfl
    | some cell => exact congrArg some (hf cell)
  · rw [if_neg h]
    simp [session?, cell?, modify, Ne.symm h]

theorem session?_applyEdit (t : SessionTable) (handle place : Handle) (change : Edit) :
    (t.applyEdit handle change).session? place =
      if place = handle then (t.session? place).map change.apply else t.session? place :=
  t.session?_modify handle place fun _ => rfl

/-- A change of the cell that leaves the session alone cannot be read off the sessions. -/
theorem session?_modify_of_kept (t : SessionTable) (handle place : Handle) {change : Cell → Cell}
    (hf : ∀ cell, (change cell).session = cell.session) :
    (t.modify handle change).session? place = t.session? place := by
  rw [t.session?_modify handle place (f := id) hf, Option.map_id, id, ite_self]

theorem session?_hold (t : SessionTable) (handle place : Handle) :
    (t.hold handle).session? place = t.session? place :=
  t.session?_modify_of_kept handle place fun _ => rfl

theorem session?_release (t : SessionTable) (handle place : Handle) :
    (t.release handle).session? place = t.session? place :=
  t.session?_modify_of_kept handle place fun _ => rfl

theorem isHeld_insert_of_lt (t : SessionTable) (new : Session) {handle : Handle}
    (h : handle < t.cells.length) : (t.insert new).isHeld handle = t.isHeld handle := by
  simp [isHeld, cell?, insert, List.getElem?_append_left h]

end SessionTable

/-! ## The ends of an access -/

/-- The ends of an access. -/
inductive Accessed (t : SessionTable) : Access → Access.Reply → SessionTable → Prop where
  | created {id : String} {made now : Instant} :
      Accessed t (.create id made now) (.created t.cells.length)
        ((t.sweep now).insert (.start id made))
  | awaited {id : String} {now : Instant} : t.isLocked id = true →
      Accessed t (.find id now) .busy t
  | missing {id : String} {now : Instant} : t.handle? id = none →
      Accessed t (.find id now) (.found none) t
  | expired {id : String} {now : Instant} {handle : Handle} {session : Session} :
      t.handle? id = some handle → t.session? handle = some session →
      t.isExpired now session = true →
      Accessed t (.find id now) (.found none) (t.remove id)
  | found {id : String} {now : Instant} {handle : Handle} {session : Session} :
      t.handle? id = some handle → t.session? handle = some session →
      t.isExpired now session = false →
      Accessed t (.find id now) (.found (some handle)) t
  | removed {id : String} : Accessed t (.remove id) (.removed (t.contains id)) (t.remove id)
  | refused {handle : Handle} : t.isHeld handle = true → Accessed t (.hold handle) .busy t
  | held {handle : Handle} : t.isHeld handle = false →
      Accessed t (.hold handle) .done (t.hold handle)
  | released {handle : Handle} : Accessed t (.release handle) .done (t.release handle)
  | edited {handle : Handle} {change : Edit} :
      Accessed t (.edit handle change) .done (t.applyEdit handle change)

variable {I : Interface} {t t' : SessionTable} {a : Access} {reply : Access.Reply}
  {h : List (Exchange I)}

theorem find_yields {id : String} {now : Instant} {found : Option Handle}
    (hs : ∀ handle, t.handle? id = some handle → ∃ session, t.session? handle = some session)
    (hy : (t.find id now : Program I (Option Handle × SessionTable)).Yields h (found, t')) :
    h = [] ∧ Accessed t (.find id now) (.found found) t' := by
  unfold SessionTable.find at hy
  split at hy
  · rename_i hl
    obtain ⟨rfl, he⟩ := hy
    cases he
    exact ⟨rfl, .missing hl⟩
  · rename_i handle hl
    obtain ⟨session, hsession⟩ := hs handle hl
    rw [hsession] at hy
    by_cases hx : t.isExpired now session = true
    · simp only [if_pos hx] at hy
      obtain ⟨rfl, he⟩ := hy
      cases he
      exact ⟨rfl, .expired hl hsession hx⟩
    · simp only [if_neg hx] at hy
      obtain ⟨rfl, he⟩ := hy
      cases he
      exact ⟨rfl, .found hl hsession (by simpa using hx)⟩

/-- An access to a table whose entries lead to sessions has no other ends. -/
theorem access_yields
    (hs : ∀ id handle, t.handle? id = some handle → ∃ session, t.session? handle = some session)
    (hy : (a.act t).Yields h (reply, t')) : h = [] ∧ Accessed t a reply t' := by
  cases a with
  | create id made now =>
    obtain ⟨⟨handle, left⟩, h₁, h₂, rfl, hcreate, rfl, he⟩ := Program.yields_bind.1 hy
    obtain ⟨rfl, rfl, rfl⟩ := create_yields hcreate
    cases he
    exact ⟨rfl, .created⟩
  | find id now =>
    simp only [Access.act] at hy
    split at hy
    · rename_i hl
      obtain ⟨rfl, he⟩ := hy
      cases he
      exact ⟨rfl, .awaited hl⟩
    · obtain ⟨⟨found, left⟩, h₁, h₂, rfl, hfind, rfl, he⟩ := Program.yields_bind.1 hy
      cases he
      rw [List.append_nil]
      exact find_yields (hs id) hfind
  | remove id =>
    obtain ⟨rfl, he⟩ := hy
    cases he
    exact ⟨rfl, .removed⟩
  | hold handle =>
    obtain ⟨rfl, he⟩ := hy
    refine ⟨rfl, ?_⟩
    cases hh : t.isHeld handle with
    | true =>
      rw [hh] at he
      cases he
      exact .refused hh
    | false =>
      rw [hh] at he
      cases he
      exact .held hh
  | release handle =>
    obtain ⟨rfl, he⟩ := hy
    cases he
    exact ⟨rfl, .released⟩
  | edit handle change =>
    obtain ⟨rfl, he⟩ := hy
    cases he
    exact ⟨rfl, .edited⟩

end TwoStepLogin.Host
