import TwoStepLogin.Host.SessionTable
import TwoStepLogin.Proofs.Effect.Yields

/-!
# The laws of the session table

A table is seen through what it holds: which sessions can be found under which identifiers. Each
operation is described by what is held afterwards, and keeps every session under its own identifier.

* `Host.SessionTable.Holds` — a session can be found under an identifier;
* `Host.SessionTable.Sound` — every entry leads to a session of that identifier;
* `Host.SessionTable.Looked` — the ends of looking for a session.
-/

set_option autoImplicit false

namespace TwoStepLogin.Host.SessionTable

/-- A session can be found under an identifier. -/
def Holds (t : SessionTable) (id : String) (session : Session) : Prop :=
  ∃ handle, (id, handle) ∈ t.live ∧ t.session? handle = some session

/-- Every entry leads to a session of that identifier. -/
def Sound (t : SessionTable) : Prop :=
  ∀ id handle, (id, handle) ∈ t.live → ∃ session, t.session? handle = some session ∧ session.id = id

variable {t t' : SessionTable} {id other : String} {handle : Handle} {now : Instant}
  {session new found : Session}

theorem contains_eq_false_iff : t.contains id = false ↔ ∀ handle, (id, handle) ∉ t.live := by
  constructor
  · intro h handle hm
    rw [contains, List.any_eq_false] at h
    exact h _ hm (by simp)
  · intro h
    rw [contains, List.any_eq_false]
    rintro ⟨key, handle⟩ hm he
    obtain rfl : key = id := by simpa using he
    exact h handle hm

theorem Sound.not_holds_iff (ht : t.Sound) : (∀ session, ¬t.Holds id session) ↔ t.contains id = false := by
  rw [contains_eq_false_iff]
  constructor
  · intro h handle hm
    obtain ⟨session, hs, -⟩ := ht id handle hm
    exact h session ⟨handle, hm, hs⟩
  · rintro h session ⟨handle, hm, -⟩
    exact h handle hm

theorem Sound.id_eq (ht : t.Sound) (h : t.Holds id session) : session.id = id := by
  obtain ⟨handle, hm, hs⟩ := h
  obtain ⟨found, hf, hid⟩ := ht id handle hm
  rw [hs] at hf
  cases hf
  exact hid

/-! ## Making and taking out -/

theorem sound_empty (timeout : Span) : (empty timeout).Sound := nofun

theorem not_holds_empty (timeout : Span) : ¬(empty timeout).Holds id session := nofun

theorem mem_live_remove {entry : String × Handle} :
    entry ∈ (t.remove id).live ↔ entry ∈ t.live ∧ entry.1 ≠ id := by
  simp [remove]

theorem Sound.remove (ht : t.Sound) (id : String) : (t.remove id).Sound :=
  fun key handle hm => ht key handle (mem_live_remove.1 hm).1

theorem holds_remove_iff : (t.remove id).Holds other session ↔ other ≠ id ∧ t.Holds other session := by
  constructor
  · rintro ⟨handle, hm, hs⟩
    exact ⟨(mem_live_remove.1 hm).2, handle, (mem_live_remove.1 hm).1, hs⟩
  · rintro ⟨hne, handle, hm, hs⟩
    exact ⟨handle, mem_live_remove.2 ⟨hm, hne⟩, hs⟩

theorem Sound.sweep (ht : t.Sound) (now : Instant) : (t.sweep now).Sound :=
  fun key handle hm => ht key handle (List.mem_filter.1 hm).1

/-- A sweep only takes sessions out. -/
theorem Holds.of_sweep (h : (t.sweep now).Holds id session) : t.Holds id session := by
  obtain ⟨handle, hm, hs⟩ := h
  exact ⟨handle, (List.mem_filter.1 hm).1, hs⟩

/-! ## A new session -/

theorem mem_link {live : List (String × Handle)} {entry : String × Handle}
    (h : entry ∈ link id handle live) : entry = (id, handle) ∨ entry ∈ live := by
  induction live with
  | nil => exact .inl (List.mem_singleton.1 h)
  | cons e rest ih =>
    obtain ⟨key, old⟩ := e
    unfold link at h
    split at h
    · exact (List.mem_cons.1 h).imp_right (List.mem_cons_of_mem _)
    · rcases List.mem_cons.1 h with rfl | h
      · exact .inr List.mem_cons_self
      · exact (ih h).imp_right (List.mem_cons_of_mem _)

theorem lt_of_session? (h : t.session? handle = some session) : handle < t.cells.length := by
  obtain ⟨cell, hc, -⟩ := Option.map_eq_some_iff.1 h
  exact (List.getElem?_eq_some_iff.1 hc).1

theorem Sound.insert (ht : t.Sound) (new : Session) : (t.insert new).Sound := by
  intro key handle hm
  rcases mem_link hm with he | hm
  · cases he
    exact ⟨new, session?_insert_self t new, rfl⟩
  · obtain ⟨found, hf, hid⟩ := ht key handle hm
    exact ⟨found, (session?_insert_of_lt t new (lt_of_session? hf)).trans hf, hid⟩

/-! ## Writing to a cell -/

theorem session?_write_self (h : t.session? handle = some found) :
    (t.write handle new).session? handle = some new := by
  obtain ⟨cell, hc, -⟩ := Option.map_eq_some_iff.1 h
  have hc : t.cells[handle]? = some cell := hc
  simp [session?, cell?, write, modify, hc]

theorem session?_write_of_ne {place : Handle} (h : place ≠ handle) :
    (t.write handle new).session? place = t.session? place := by
  simp [session?, cell?, write, modify, Ne.symm h]

theorem Sound.write (ht : t.Sound) (hf : t.session? handle = some found) (hid : new.id = found.id) :
    (t.write handle new).Sound := by
  intro key place hm
  obtain ⟨session, hs, rfl⟩ := ht key place hm
  by_cases hp : place = handle
  · subst hp
    rw [hf] at hs
    cases hs
    exact ⟨new, session?_write_self hf, hid⟩
  · exact ⟨session, (session?_write_of_ne hp).trans hs, rfl⟩

/-- What is held after writing to a cell: the new session, or one in another cell. -/
theorem Sound.holds_of_write (ht : t.Sound) (hf : t.session? handle = some found)
    (h : (t.write handle new).Holds other session) : other = found.id ∧ session = new ∨
      ∃ place, place ≠ handle ∧ (other, place) ∈ t.live ∧ t.session? place = some session := by
  obtain ⟨place, hm, hs⟩ := h
  by_cases hp : place = handle
  · subst hp
    rw [session?_write_self hf] at hs
    cases hs
    obtain ⟨old, ho, hid⟩ := ht other place hm
    rw [hf] at ho
    cases ho
    exact .inl ⟨hid.symm, rfl⟩
  · rw [session?_write_of_ne hp] at hs
    exact .inr ⟨place, hp, hm, hs⟩

/-- A new session that is written to at once is the only one that comes in. -/
theorem Sound.holds_of_create (ht : t.Sound)
    (h : ((t.insert found).write t.cells.length new).Holds other session) :
    other = found.id ∧ session = new ∨ t.Holds other session := by
  rcases (ht.insert found).holds_of_write (session?_insert_self t found) h with
    hnew | ⟨place, hp, hm, hs⟩
  · exact .inl hnew
  · rcases mem_link hm with he | hm
    · cases he
      exact absurd rfl hp
    · obtain ⟨old, ho, -⟩ := ht other place hm
      rw [session?_insert_of_lt t found (lt_of_session? ho)] at hs
      exact .inr ⟨place, hm, hs⟩

/-! ## Looking for a session -/

/-- The ends of looking for a session. -/
inductive Looked (t : SessionTable) (id : String) (now : Instant) :
    Option Handle → SessionTable → Prop where
  | missing : t.contains id = false → Looked t id now none t
  | expired {session : Session} : t.Holds id session → t.isExpired now session = true →
      Looked t id now none (t.remove id)
  | found {handle : Handle} {session : Session} : (id, handle) ∈ t.live →
      t.session? handle = some session → t.isExpired now session = false →
      Looked t id now (some handle) t

theorem mem_of_lookup {live : List (String × Handle)} (h : live.lookup id = some handle) :
    (id, handle) ∈ live := by
  obtain ⟨front, rest, rfl, -⟩ := List.lookup_eq_some_iff.1 h
  exact List.mem_append_right _ List.mem_cons_self

theorem contains_of_lookup_eq_none (h : t.live.lookup id = none) : t.contains id = false := by
  rw [contains_eq_false_iff]
  intro handle hm
  rw [List.lookup_eq_none_iff] at h
  exact absurd (h _ hm) (by simp)

/-- Looking for a session has no other ends. -/
theorem Sound.find_yields {I : Interface} {h : List (Exchange I)} {result : Option Handle}
    (ht : t.Sound)
    (hy : (t.find id now : Program I (Option Handle × SessionTable)).Yields h (result, t')) :
    h = [] ∧ Looked t id now result t' := by
  unfold find at hy
  split at hy
  · rename_i hn
    obtain ⟨rfl, he⟩ := hy
    cases he
    exact ⟨rfl, .missing (contains_of_lookup_eq_none hn)⟩
  · rename_i handle hl
    have hm := mem_of_lookup hl
    obtain ⟨session, hs, -⟩ := ht id handle hm
    rw [hs] at hy
    by_cases hx : t.isExpired now session = true
    · simp only [if_pos hx] at hy
      obtain ⟨rfl, he⟩ := hy
      cases he
      exact ⟨rfl, .expired ⟨handle, hm, hs⟩ hx⟩
    · simp only [if_neg hx] at hy
      obtain ⟨rfl, he⟩ := hy
      cases he
      exact ⟨rfl, .found hm hs (by simpa using hx)⟩

end TwoStepLogin.Host.SessionTable
