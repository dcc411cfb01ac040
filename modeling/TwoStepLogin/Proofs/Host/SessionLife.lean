import TwoStepLogin.Proofs.Effect.Play
import TwoStepLogin.Proofs.Host.AnswerLaws
import TwoStepLogin.Proofs.Host.ServiceSteps

/-!
# The sessions of a host over time

A host of the device flow answers requests one after the other. Browsers may send whatever
identifiers they like, and directory and server may answer whatever they like.

* `Host.ServiceTurn`, `Host.serving` — a request with what came of it;
* `Host.Admits` — a login is answered by the next step, for a user that the directory resolved;
* `Host.Spends` — a request after which an identifier is of no more use;
* `Host.Consistent` — the invariant: every session in the table was admitted and not spent since;
* `Host.Consistent.step`, `Host.consistent_of_played` — every request keeps it, and so every run.
-/

set_option autoImplicit false

namespace TwoStepLogin.Host

open Login (surroundings deviceFlow told PasswordTurn DeviceTurn)

/-- One request to a host and what came of it. -/
abbrev ServiceTurn := Turn surroundings Arrival (Service surroundings) Response

/-- What a host does with a request. -/
def serving (a : Arrival) (s : Service surroundings) :
    Program surroundings (Response × Service surroundings) := s.serve a

/-- A request begins a login, for which an identifier is drawn. -/
def Arrival.Opens (a : Arrival) : Prop := ∃ fields, a.demand = .login fields

/-- A login is answered by the next step, for a user that the directory resolved. -/
def Admits (jar : CookieJar) (id : String) (user : User) (t : ServiceTurn) : Prop :=
  ∃ fields step page, t.command.demand = .login fields ∧ t.command.freshId = id ∧
    t.reply = .json 200 (some (jar.session id)) (StepAnswer.nextStep step page).toJson ∧
    told (.findUser (Service.credentials (.ofPairs fields)).userName) (.ok (some user)) ∈ t.exchanges

/-- An identifier is of no more use: it was sent with a new login, with the device's response or to
log out, or the login for which it was drawn has failed. -/
def Spends (id : String) (t : ServiceTurn) : Prop :=
  (t.command.request.sessionId? = some id ∧ (t.command.Opens ∨
      (∃ fields, t.command.demand = .device fields) ∨ t.command.demand = .logout)) ∨
    (t.command.Opens ∧ t.command.freshId = id ∧
      ∃ step, t.reply.body = (StepAnswer.failed step).toJson.compact)

/-- A session in the table was admitted in some turn, and its identifier was not spent since. -/
def Issued (jar : CookieJar) (turns : List ServiceTurn) (id : String) (session : Session) : Prop :=
  ∃ earlier opened later user, turns = earlier ++ opened :: later ∧ Admits jar id user opened ∧
    session.createdAt = opened.command.created ∧ session.user = some user ∧
    ∀ t ∈ later, ¬Spends id t

/-- What a host knows after some turns. -/
structure Consistent (configuration : Login.Configuration) (timeout : Span) (jar : CookieJar)
    (turns : List ServiceTurn) (s : Service surroundings) : Prop where
  flow_eq : s.flow = deviceFlow configuration
  timeout_eq : s.sessions.timeout = timeout
  jar_eq : s.jar = jar
  sound : s.sessions.Sound
  issued : ∀ id session, s.sessions.Holds id session → Issued jar turns id session

variable {configuration : Login.Configuration} {timeout : Span} {jar : CookieJar} {id : String}
  {turns : List ServiceTurn} {t : ServiceTurn} {s s' : Service surroundings} {a : Arrival}
  {session : Session} {h : List (Exchange surroundings)} {r : Response}

/-! ## One request -/

theorem holds_others (hh : (s.others a).Holds id session) :
    a.request.sessionId? ≠ some id ∧ s.sessions.Holds id session := by
  unfold Service.others at hh
  split at hh
  · rename_i hn
    exact ⟨by simp [hn], hh⟩
  · rename_i named hn
    obtain ⟨hne, hh⟩ := SessionTable.holds_remove_iff.1 hh
    exact ⟨by simp [hn, Ne.symm hne], hh⟩

theorem sound_others (hs : s.sessions.Sound) (a : Arrival) : (s.others a).Sound := by
  unfold Service.others
  split
  · exact hs
  · exact hs.remove _

theorem timeout_others (s : Service surroundings) (a : Arrival) :
    (s.others a).timeout = s.sessions.timeout := by
  unfold Service.others
  split
  · rfl
  · rfl

/-- After a new login the table holds its session, and all others but the one that was named. -/
theorem holds_renewed (hs : s.sessions.Sound) {new : Session}
    (hh : (s.renewed a new).Holds id session) : id = a.freshId ∧ session = new ∨
      a.request.sessionId? ≠ some id ∧ s.sessions.Holds id session := by
  have hswept := (sound_others hs a).sweep a.now
  rcases hswept.holds_of_create hh with hnew | hold
  · exact .inl hnew
  · exact .inr (holds_others hold.of_sweep)

theorem sound_renewed (hs : s.sessions.Sound) {new : Session} (hid : new.id = a.freshId) :
    (s.renewed a new).Sound :=
  (((sound_others hs a).sweep a.now).insert _).write
    (SessionTable.session?_insert_self ((s.others a).sweep a.now) _) hid

/-- A session that cannot be found for a request is not in the table afterwards. -/
theorem Unknown.holds {t : SessionTable} (hu : Unknown s a t) (hs : s.sessions.Sound)
    (hh : t.Holds id session) : a.request.sessionId? ≠ some id ∧ s.sessions.Holds id session := by
  cases hu with
  | unnamed hn => exact ⟨by simp [hn], hh⟩
  | looked hn hl =>
    cases hl with
    | missing hm =>
      refine ⟨fun he => ?_, hh⟩
      obtain rfl := Option.some.inj (hn.symm.trans he)
      exact hs.not_holds_iff.2 hm session hh
    | expired _ _ =>
      obtain ⟨hne, hh⟩ := SessionTable.holds_remove_iff.1 hh
      exact ⟨by simp [hn, Ne.symm hne], hh⟩

theorem Unknown.sound {t : SessionTable} (hu : Unknown s a t) (hs : s.sessions.Sound) :
    t.Sound ∧ t.timeout = s.sessions.timeout := by
  cases hu with
  | unnamed _ => exact ⟨hs, rfl⟩
  | looked _ hl =>
    cases hl with
    | missing _ => exact ⟨hs, rfl⟩
    | expired _ _ => exact ⟨hs.remove _, rfl⟩

/-- A session that was submitted to and forgotten is gone, the others stay as they are. -/
theorem Known.holds {handle : Handle} {before after : Session} {other : String}
    (hk : Known s a id handle before) (hs : s.sessions.Sound)
    (hh : ((s.sessions.write handle after).remove id).Holds other session) :
    a.request.sessionId? ≠ some other ∧ s.sessions.Holds other session := by
  obtain ⟨hne, hh⟩ := SessionTable.holds_remove_iff.1 hh
  have hid : before.id = id := hs.id_eq ⟨handle, hk.live, hk.found⟩
  refine ⟨by simp [hk.named, Ne.symm hne], ?_⟩
  rcases hs.holds_of_write hk.found hh with ⟨he, -⟩ | ⟨place, -, hm, hp⟩
  · exact absurd (he.trans hid) hne
  · exact ⟨place, hm, hp⟩

/-! ## All requests -/

theorem Issued.snoc (hi : Issued jar turns id session) (ht : ¬Spends id t) :
    Issued jar (turns ++ [t]) id session := by
  obtain ⟨earlier, opened, later, user, rfl, hadmits, hcreated, huser, hlater⟩ := hi
  refine ⟨earlier, opened, later ++ [t], user, by simp, hadmits, hcreated, huser, ?_⟩
  intro u hu
  rcases List.mem_append.1 hu with hu | hu
  · exact hlater u hu
  · rw [List.mem_singleton.1 hu]
    exact ht

/-- A request that names no session and begins no login spends nothing. -/
theorem not_spends_of_idle (hd : t.command.demand = .challenge ∨ t.command.demand = .other) :
    ¬Spends id t := by
  have hidle : ¬t.command.Opens ∧ (¬∃ fields, t.command.demand = .device fields) ∧
      t.command.demand ≠ .logout := by
    unfold Arrival.Opens
    rcases hd with hd | hd
    · simp [hd]
    · simp [hd]
  rintro (⟨-, ho | hf | hl⟩ | ⟨ho, -⟩)
  · exact hidle.1 ho
  · exact hidle.2.1 hf
  · exact hidle.2.2 hl
  · exact hidle.1 ho

/-- A request spends no other identifier than the one it names and the one drawn for it. -/
theorem not_spends_of_ne (hn : t.command.request.sessionId? ≠ some id)
    (ho : t.command.Opens → t.command.freshId ≠ id) : ¬Spends id t := by
  rintro (⟨he, -⟩ | ⟨hopen, hid, -⟩)
  · exact hn he
  · exact ho hopen hid

/-- A request that only takes sessions out keeps a host consistent. -/
theorem Consistent.keep (hc : Consistent configuration timeout jar turns s)
    (hflow : s'.flow = s.flow) (hjar : s'.jar = s.jar)
    (htimeout : s'.sessions.timeout = s.sessions.timeout) (hsound : s'.sessions.Sound)
    (hheld : ∀ id session, s'.sessions.Holds id session →
      s.sessions.Holds id session ∧ ¬Spends id t) :
    Consistent configuration timeout jar (turns ++ [t]) s' := by
  refine ⟨hflow.trans hc.flow_eq, htimeout.trans hc.timeout_eq, hjar.trans hc.jar_eq, hsound, ?_⟩
  intro id session hh
  obtain ⟨hbefore, hspends⟩ := hheld id session hh
  exact (hc.issued id session hbefore).snoc hspends

/-- A session that is submitted to and forgotten is the only one that goes. -/
theorem Consistent.submitted {handle : Handle} {before after : Session}
    {fields : List (String × String)} (hc : Consistent configuration timeout jar turns s)
    (hd : a.demand = .device fields) (hk : Known s a id handle before) (hid : after.id = before.id) :
    Consistent configuration timeout jar
      (turns ++ [⟨a, s, h, r, (s.withSessions (s.sessions.write handle after)).forget id⟩])
      ((s.withSessions (s.sessions.write handle after)).forget id) := by
  refine hc.keep rfl rfl rfl ((hc.sound.write hk.found hid).remove id) fun other session hh => ?_
  obtain ⟨hn, hbefore⟩ := hk.holds hc.sound hh
  refine ⟨hbefore, not_spends_of_ne hn ?_⟩
  rintro ⟨fields', hd'⟩
  cases hd.symm.trans hd'

/-- Every request keeps a host consistent. -/
theorem Consistent.step (hc : Consistent configuration timeout jar turns s)
    (hs : Served configuration s a h r s') :
    Consistent configuration timeout jar (turns ++ [⟨a, s, h, r, s'⟩]) s' := by
  cases hs with
  | offhand hd _ =>
    exact hc.keep rfl rfl rfl hc.sound fun id session hh => ⟨hh, not_spends_of_idle (.inr hd)⟩
  | unknown hd hu =>
    obtain ⟨hsound, htimeout⟩ := hu.sound hc.sound
    refine hc.keep rfl rfl htimeout hsound fun id session hh => ?_
    obtain ⟨hn, hbefore⟩ := hu.holds hc.sound hh
    refine ⟨hbefore, not_spends_of_ne hn ?_⟩
    rintro ⟨fields, ho⟩
    rcases hd with hd | ⟨_, hd⟩
    · cases hd.symm.trans ho
    · cases hd.symm.trans ho
  | shown hd _ _ =>
    exact hc.keep rfl rfl rfl hc.sound fun id session hh => ⟨hh, not_spends_of_idle (.inl hd)⟩
  | mistimed hd _ _ =>
    exact hc.keep rfl rfl rfl hc.sound fun id session hh => ⟨hh, not_spends_of_idle (.inl hd)⟩
  | loggedOut hd =>
    refine hc.keep rfl rfl (timeout_others s a) (sound_others hc.sound a) fun id session hh => ?_
    obtain ⟨hn, hbefore⟩ := holds_others hh
    refine ⟨hbefore, not_spends_of_ne hn ?_⟩
    rintro ⟨fields, ho⟩
    cases hd.symm.trans ho
  | @admitted fields _ step page new hd ht =>
    obtain ⟨hcreated, user, huser, htold⟩ := ht.user_of_nextStep
    have hsound : (s.renewed a new).Sound := sound_renewed hc.sound ht.id_eq
    refine ⟨hc.flow_eq, (timeout_others s a).trans hc.timeout_eq, hc.jar_eq, hsound, ?_⟩
    intro id session hh
    rcases holds_renewed hc.sound hh with ⟨rfl, rfl⟩ | ⟨hn, hbefore⟩
    · refine ⟨turns, _, [], user, rfl, ⟨fields, step, page, hd, rfl, ?_, htold⟩, hcreated, huser,
        fun _ hm => absurd hm List.not_mem_nil⟩
      rw [hc.jar_eq]
    · refine (hc.issued id session hbefore).snoc ?_
      rintro (⟨he, -⟩ | ⟨-, -, failure, hbody⟩)
      · exact hn he
      · exact failed_ne_nextStep _ _ _ hbody.symm
  | @turnedAway fields _ step new hd ht =>
    have hsound : (s.renewed a new).Sound := sound_renewed hc.sound ht.id_eq
    refine hc.keep rfl rfl (timeout_others s a) (hsound.remove a.freshId) fun id session hh => ?_
    obtain ⟨hne, hh⟩ := SessionTable.holds_remove_iff.1 hh
    rcases holds_renewed hc.sound hh with ⟨rfl, -⟩ | ⟨hn, hbefore⟩
    · exact absurd rfl hne
    · exact ⟨hbefore, not_spends_of_ne hn fun _ => Ne.symm hne⟩
  | authenticated hd hk ht => exact hc.submitted hd hk ht.id_eq
  | rejected hd hk ht => exact hc.submitted hd hk ht.id_eq

/-- A host is consistent after every run. -/
theorem consistent_of_played
    (hplay : Played serving ⟨deviceFlow configuration, .empty timeout, jar⟩ turns s) :
    Consistent configuration timeout jar turns s ∧
      ∀ t ∈ turns, t.before.jar = jar ∧
        Served configuration t.before t.command t.exchanges t.reply t.after := by
  induction hplay with
  | nil =>
    exact ⟨⟨rfl, rfl, rfl, SessionTable.sound_empty _,
      fun _ _ hh => absurd hh (SessionTable.not_holds_empty _)⟩,
      fun _ hm => absurd hm List.not_mem_nil⟩
  | snoc _ hy ih =>
    obtain ⟨hc, hall⟩ := ih
    have hs := serve_yields hc.flow_eq hc.sound hy
    refine ⟨hc.step hs, List.forall_mem_append.2 ⟨hall, ?_⟩⟩
    exact List.forall_mem_singleton.2 ⟨hc.jar_eq, hs⟩

/-- Requests in sequence are the turns of a conversation. -/
theorem run_serveAll {σ : Type} (others : Responder surroundings σ) (arrivals : List Arrival)
    (s : Service surroundings) (w : σ) :
    ((s.serveAll arrivals).run others w).value =
      ((play serving others arrivals s w).map Turn.reply,
        leftAfter s (play serving others arrivals s w)) := by
  induction arrivals generalizing s w with
  | nil => rfl
  | cons a rest ih =>
    let o := (s.serve a).run others w
    show ((s.serve a >>= fun x => x.2.serveAll rest >>= fun y => _).run others w).value = _
    rw [Program.run_bind, Program.run_bind, ih o.value.2 o.state]
    rfl

end TwoStepLogin.Host
