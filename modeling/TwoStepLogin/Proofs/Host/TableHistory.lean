import TwoStepLogin.Proofs.Host.TableAccess

/-!
# The table of sessions over time

Accesses to a table come one after the other. What was given out, written and taken out says what the
table contains now, up to sessions that were swept out; those had become too old by then.

* `Host.GivenOut` — a handle that was given out for a new session, and what was done since then;
* `Host.editsThrough` — what was written through a handle;
* `Host.Tracks` — the invariant: how a table follows from what was done with it;
* `Host.Tracks.step`, `Host.tracks_of_played` — every access keeps it, and so every run;
* `Host.absent_of_played` — identifiers do not come back by themselves.
-/

set_option autoImplicit false

namespace TwoStepLogin.Host

/-- An access and what came of it. -/
abbrev TableTurn (I : Interface) := Turn I Access SessionTable Access.Reply

variable {I : Interface}

/-- A handle was given out for a session that was made under an identifier. -/
def GivenOut (turns : List (TableTurn I)) (id : String) (handle : Handle) (made : Instant)
    (since : List (TableTurn I)) : Prop :=
  ∃ front t now, turns = front ++ t :: since ∧ t.command = .create id made now ∧
    t.reply = .created handle

/-- What was written through a handle, in order. -/
def editsThrough (handle : Handle) (turns : List (TableTurn I)) : List Edit :=
  turns.filterMap fun t => t.command.editOf? handle

/-- Nobody took out the session of an identifier. -/
def NotRemoved (id : String) (turns : List (TableTurn I)) : Prop :=
  ∀ t ∈ turns, t.command ≠ .remove id

/-- The age of sessions was looked at when one that was made at a certain time was too old. -/
def Outlived (timeout : Span) (made : Instant) (turns : List (TableTurn I)) : Prop :=
  ∃ t ∈ turns, ∃ now, t.command.now? = some now ∧ (now.since made).exceeds timeout = true

/-- What is known of a table after some turns. -/
structure Tracks (timeout : Span) (turns : List (TableTurn I)) (t : SessionTable) : Prop where
  timeout_eq : t.timeout = timeout
  distinct : t.Distinct
  contents : ∀ {id handle made since}, GivenOut turns id handle made since →
    t.session? handle = some (Edit.applyAll (editsThrough handle since) (.start id made))
  own : ∀ {id other handle made made' since since'}, GivenOut turns id handle made since →
    GivenOut turns other handle made' since' → id = other
  registered : ∀ {id handle}, t.handle? id = some handle →
    ∃ made since, GivenOut turns id handle made since ∧ NotRemoved id since
  kept : ∀ {id handle made since}, GivenOut turns id handle made since → NotRemoved id since →
    t.handle? id = some handle ∨ Outlived timeout made since

variable {t t' : SessionTable} {a : Access} {reply : Access.Reply} {timeout : Span}
  {turns since : List (TableTurn I)} {u : TableTurn I} {id other : String} {handle : Handle}
  {made now : Instant} {session : Session}

/-! ## What one access leaves -/

namespace Accessed

theorem timeout_eq (h : Accessed t a reply t') : t'.timeout = t.timeout := by
  cases h <;> rfl

theorem distinct (h : Accessed t a reply t') (hd : t.Distinct) : t'.Distinct := by
  cases h with
  | created => exact (hd.sweep _).insert _
  | expired _ _ _ => exact hd.remove _
  | removed => exact hd.remove _
  | awaited _ | missing _ | found _ _ _ | refused _ | held _ | released | edited => exact hd

/-- The session of a handle only changes by what is written through the handle. -/
theorem session?_eq (h : Accessed t a reply t') (hs : t.session? handle = some session) :
    t'.session? handle = some (Edit.applyAll (a.editOf? handle).toList session) := by
  cases h with
  | created => exact (SessionTable.session?_insert_of_lt _ _ (SessionTable.lt_of_session? hs)).trans hs
  | awaited _ | missing _ | expired _ _ _ | found _ _ _ | removed | refused _ => exact hs
  | held _ => exact (t.session?_hold _ _).trans hs
  | released => exact (t.session?_release _ _).trans hs
  | @edited place change =>
    rw [t.session?_applyEdit, hs]
    by_cases hp : place = handle
    · simp [Access.editOf?, hp, Edit.applyAll]
    · simp [Access.editOf?, hp, Ne.symm hp, Edit.applyAll]

/-- An entry was there before and was not taken out, or it is the one of a new session. -/
theorem handle?_before (h : Accessed t a reply t') (hd : t.Distinct)
    (hl : t'.handle? id = some handle) : (t.handle? id = some handle ∧ a ≠ .remove id) ∨
      ∃ made now, a = .create id made now ∧ reply = .created handle := by
  cases h with
  | @created new made now =>
    rw [SessionTable.handle?_insert] at hl
    split at hl
    · rename_i he
      obtain rfl : id = new := he
      cases hl
      exact .inr ⟨made, now, rfl, rfl⟩
    · rw [hd.handle?_sweep] at hl
      exact .inl ⟨(Option.filter_eq_some_iff.1 hl).1, by simp⟩
  | @expired gone _ _ _ _ _ _ =>
    rw [hd.handle?_remove] at hl
    split at hl
    · cases hl
    · exact .inl ⟨hl, by simp⟩
  | @removed gone =>
    rw [hd.handle?_remove] at hl
    split at hl
    · cases hl
    · rename_i hne
      exact .inl ⟨hl, by simpa using Ne.symm hne⟩
  | awaited _ | missing _ | found _ _ _ | refused _ | held _ | released | edited =>
    exact .inl ⟨hl, by simp⟩

/-- An entry only goes if it is taken out, if it gives way to a new session of its identifier, or if its
session is seen to be too old. -/
theorem handle?_after (h : Accessed t a reply t') (hd : t.Distinct)
    (hl : t.handle? id = some handle) (hs : t.session? handle = some session)
    (hn : a.newId? ≠ some id) (hr : a ≠ .remove id) : t'.handle? id = some handle ∨
      ∃ now, a.now? = some now ∧ t.isExpired now session = true := by
  cases h with
  | @created new made now =>
    have hne : id ≠ (Session.start new made).id := fun he => hn (congrArg some he.symm)
    rw [SessionTable.handle?_insert, if_neg hne, hd.handle?_sweep, hl, Option.filter_some]
    cases hx : t.isExpired now session with
    | true => exact .inr ⟨now, rfl, hx⟩
    | false => exact .inl (if_pos ((SessionTable.survives_iff hs).2 (.inr hx)))
  | @expired gone now place old hplace hold hx =>
    rw [hd.handle?_remove]
    by_cases he : id = gone
    · subst he
      obtain rfl := Option.some.inj (hl.symm.trans hplace)
      obtain rfl := Option.some.inj (hs.symm.trans hold)
      exact .inr ⟨now, rfl, hx⟩
    · rw [if_neg he]
      exact .inl hl
  | @removed gone =>
    rw [hd.handle?_remove, if_neg fun he => hr (congrArg Access.remove he.symm)]
    exact .inl hl
  | awaited _ | missing _ | found _ _ _ | refused _ | held _ | released | edited => exact .inl hl

/-- The handle that is given out for a new session is a new one. -/
theorem given (h : Accessed t (.create id made now) (.created handle) t') :
    t.session? handle = none ∧ t'.session? handle = some (.start id made) ∧
      t'.handle? id = some handle := by
  cases h
  refine ⟨?_, SessionTable.session?_insert_self _ _, ?_⟩
  · exact Option.map_eq_none_iff.2 (List.getElem?_eq_none_iff.2 (Nat.le_refl _))
  · rw [SessionTable.handle?_insert]
    exact if_pos rfl

/-- Identifiers do not come back unless they are drawn again. -/
theorem handle?_eq_none (h : Accessed t a reply t') (hd : t.Distinct) (hl : t.handle? id = none)
    (hn : a.newId? ≠ some id) : t'.handle? id = none := by
  rw [Option.eq_none_iff_forall_not_mem]
  intro handle hm
  rcases h.handle?_before hd hm with ⟨hbefore, -⟩ | ⟨made, now, rfl, -⟩
  · cases hl.symm.trans hbefore
  · exact hn rfl

end Accessed

/-! ## Histories -/

/-- A handle was given out in the last turn, or earlier. -/
theorem givenOut_snoc : GivenOut (turns ++ [u]) id handle made since ↔
    (since = [] ∧ ∃ now, u.command = .create id made now ∧ u.reply = .created handle) ∨
      ∃ before, since = before ++ [u] ∧ GivenOut turns id handle made before := by
  constructor
  · rintro ⟨front, t, now, he, hcommand, hreply⟩
    rcases since.eq_nil_or_concat with rfl | ⟨before, last, rfl⟩
    · obtain ⟨-, htu⟩ := List.append_inj' he rfl
      obtain rfl : u = t := by simpa using htu
      exact .inl ⟨rfl, now, hcommand, hreply⟩
    · rw [List.concat_eq_append, ← List.cons_append, ← List.append_assoc] at he
      obtain ⟨hturns, hlast⟩ := List.append_inj' he rfl
      obtain rfl : u = last := by simpa using hlast
      exact .inr ⟨before, List.concat_eq_append, front, t, now, hturns, hcommand, hreply⟩
  · rintro (⟨rfl, now, hcommand, hreply⟩ | ⟨before, rfl, front, t, now, rfl, hcommand, hreply⟩)
    · exact ⟨turns, u, now, rfl, hcommand, hreply⟩
    · exact ⟨front, t, now, by simp, hcommand, hreply⟩

theorem not_givenOut_nil : ¬GivenOut ([] : List (TableTurn I)) id handle made since := by
  rintro ⟨front, t, now, he, -⟩
  cases front <;> cases he

theorem GivenOut.newId_mem (h : GivenOut turns id handle made since) :
    id ∈ turns.filterMap fun t => t.command.newId? := by
  obtain ⟨front, t, now, rfl, hcommand, -⟩ := h
  exact List.mem_filterMap.2 ⟨t, by simp, by rw [hcommand]; rfl⟩

theorem editsThrough_snoc : editsThrough handle (turns ++ [u]) =
    editsThrough handle turns ++ (u.command.editOf? handle).toList := by
  rw [editsThrough, List.filterMap_append, List.filterMap_cons, List.filterMap_nil]
  cases u.command.editOf? handle <;> rfl

theorem notRemoved_snoc :
    NotRemoved id (turns ++ [u]) ↔ NotRemoved id turns ∧ u.command ≠ .remove id := by
  unfold NotRemoved
  rw [List.forall_mem_append, List.forall_mem_singleton]

theorem Outlived.snoc (h : Outlived timeout made turns) : Outlived timeout made (turns ++ [u]) := by
  obtain ⟨t, ht, hnow⟩ := h
  exact ⟨t, List.mem_append_left _ ht, hnow⟩

/-! ## Every access keeps the table on track -/

namespace Tracks

theorem empty : Tracks timeout ([] : List (TableTurn I)) (.empty timeout) where
  timeout_eq := rfl
  distinct := SessionTable.distinct_empty timeout
  contents h := absurd h not_givenOut_nil
  own h _ := absurd h not_givenOut_nil
  registered h := nomatch h
  kept h _ := absurd h not_givenOut_nil

/-- Every entry leads to a session. -/
theorem exists_session (h : Tracks timeout turns t) (hl : t.handle? id = some handle) :
    ∃ session, t.session? handle = some session := by
  obtain ⟨made, since, hg, -⟩ := h.registered hl
  exact ⟨_, h.contents hg⟩

/-- A new handle was not given out before. -/
theorem not_givenOut (h : Tracks timeout turns u.before)
    (ha : Accessed u.before u.command u.reply u.after) {new : String} {made' : Instant}
    (hcommand : u.command = .create new made' now) (hreply : u.reply = .created handle) :
    ¬GivenOut turns id handle made since := by
  intro hg
  rw [hcommand, hreply] at ha
  cases ha.given.1.symm.trans (h.contents hg)

theorem contents_step (h : Tracks timeout turns u.before)
    (ha : Accessed u.before u.command u.reply u.after)
    (hg : GivenOut (turns ++ [u]) id handle made since) :
    u.after.session? handle =
      some (Edit.applyAll (editsThrough handle since) (.start id made)) := by
  rcases givenOut_snoc.1 hg with ⟨rfl, now, hcommand, hreply⟩ | ⟨before, rfl, hbefore⟩
  · rw [hcommand, hreply] at ha
    exact ha.given.2.1
  · rw [ha.session?_eq (h.contents hbefore), editsThrough_snoc, Edit.applyAll_append]

theorem own_step (h : Tracks timeout turns u.before)
    (ha : Accessed u.before u.command u.reply u.after) {made' : Instant}
    {since' : List (TableTurn I)} (hg : GivenOut (turns ++ [u]) id handle made since)
    (hg' : GivenOut (turns ++ [u]) other handle made' since') : id = other := by
  rcases givenOut_snoc.1 hg with ⟨-, now, hcommand, hreply⟩ | ⟨before, -, hg⟩
  · rcases givenOut_snoc.1 hg' with ⟨-, now', hcommand', -⟩ | ⟨before', -, hg'⟩
    · cases hcommand.symm.trans hcommand'
      rfl
    · exact absurd hg' (h.not_givenOut ha hcommand hreply)
  · rcases givenOut_snoc.1 hg' with ⟨-, now', hcommand', hreply'⟩ | ⟨before', -, hg'⟩
    · exact absurd hg (h.not_givenOut ha hcommand' hreply')
    · exact h.own hg hg'

theorem registered_step (h : Tracks timeout turns u.before)
    (ha : Accessed u.before u.command u.reply u.after) (hl : u.after.handle? id = some handle) :
    ∃ made since, GivenOut (turns ++ [u]) id handle made since ∧ NotRemoved id since := by
  rcases ha.handle?_before h.distinct hl with ⟨hbefore, hr⟩ | ⟨made, now, hcommand, hreply⟩
  · obtain ⟨made, since, hg, hkept⟩ := h.registered hbefore
    exact ⟨made, since ++ [u], givenOut_snoc.2 (.inr ⟨since, rfl, hg⟩),
      notRemoved_snoc.2 ⟨hkept, hr⟩⟩
  · exact ⟨made, [], givenOut_snoc.2 (.inl ⟨rfl, now, hcommand, hreply⟩), nofun⟩

theorem kept_step (h : Tracks timeout turns u.before)
    (ha : Accessed u.before u.command u.reply u.after)
    (hn : ∀ new, u.command.newId? = some new → new ∉ turns.filterMap fun t => t.command.newId?)
    (hg : GivenOut (turns ++ [u]) id handle made since) (hr : NotRemoved id since) :
    u.after.handle? id = some handle ∨ Outlived timeout made since := by
  rcases givenOut_snoc.1 hg with ⟨rfl, now, hcommand, hreply⟩ | ⟨before, rfl, hbefore⟩
  · rw [hcommand, hreply] at ha
    exact .inl ha.given.2.2
  · obtain ⟨hrb, hru⟩ := notRemoved_snoc.1 hr
    rcases h.kept hbefore hrb with hl | hout
    · have hnew : u.command.newId? ≠ some id := fun he => hn id he hbefore.newId_mem
      rcases ha.handle?_after h.distinct hl (h.contents hbefore) hnew hru with
        hl | ⟨now, hnow, hx⟩
      · exact .inl hl
      · refine .inr ⟨u, by simp, now, hnow, ?_⟩
        rw [SessionTable.isExpired, h.timeout_eq, Edit.createdAt_applyAll] at hx
        exact hx
    · exact .inr hout.snoc

/-- Every access keeps a table on track. -/
theorem step (h : Tracks timeout turns u.before)
    (ha : Accessed u.before u.command u.reply u.after)
    (hn : ∀ new, u.command.newId? = some new → new ∉ turns.filterMap fun t => t.command.newId?) :
    Tracks timeout (turns ++ [u]) u.after where
  timeout_eq := ha.timeout_eq.trans h.timeout_eq
  distinct := ha.distinct h.distinct
  contents := h.contents_step ha
  own := h.own_step ha
  registered := h.registered_step ha
  kept := h.kept_step ha hn

end Tracks

/-- A table is on track after every run. -/
theorem tracks_of_played (hplay : Played Access.act (.empty timeout) turns t)
    (hn : (turns.filterMap fun t => t.command.newId?).Nodup) :
    Tracks timeout turns t ∧ ∀ u ∈ turns, Accessed u.before u.command u.reply u.after := by
  induction hplay with
  | nil => exact ⟨.empty, nofun⟩
  | @snoc front u _ hy ih =>
    rw [List.filterMap_append, List.nodup_append] at hn
    obtain ⟨hfront, -, hdisjoint⟩ := hn
    obtain ⟨htracks, hall⟩ := ih hfront
    obtain ⟨-, ha⟩ := access_yields (fun id handle => htracks.exists_session) hy
    refine ⟨htracks.step ha fun new hnew hm => ?_, List.forall_mem_append.2 ⟨hall, ?_⟩⟩
    · exact hdisjoint new hm new (by simp [hnew]) rfl
    · exact List.forall_mem_singleton.2 ha

/-- An identifier that is not in the table and is not drawn again stays out of it. -/
theorem absent_of_played (hplay : Played Access.act t turns t') (hd : t.Distinct)
    (ha : ∀ u ∈ turns, Accessed u.before u.command u.reply u.after)
    (hn : ∀ u ∈ turns, u.command.newId? ≠ some id) (hl : t.handle? id = none) :
    t'.Distinct ∧ t'.handle? id = none ∧ ∀ u ∈ turns, u.after.handle? id = none := by
  induction hplay with
  | nil => exact ⟨hd, hl, nofun⟩
  | @snoc front u _ _ ih =>
    obtain ⟨hafront, hau⟩ := List.forall_mem_append.1 ha
    obtain ⟨hnfront, hnu⟩ := List.forall_mem_append.1 hn
    obtain ⟨hdu, hlu, hall⟩ := ih hafront hnfront
    have hau := hau u List.mem_cons_self
    have hgone := hau.handle?_eq_none hdu hlu (hnu u List.mem_cons_self)
    exact ⟨hau.distinct hdu, hgone, List.forall_mem_append.2 ⟨hall, List.forall_mem_singleton.2 hgone⟩⟩

end TwoStepLogin.Host
