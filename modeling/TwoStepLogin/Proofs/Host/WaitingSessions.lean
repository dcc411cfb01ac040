import TwoStepLogin.Proofs.Host.SessionIds

/-!
# Who stays in the table

A login enters the table with its password form and leaves it with the same request, unless it goes
on to the device step. So the table holds nothing but sessions that wait for a device, whatever
identifiers are drawn and whatever the clock shows.

* `Host.WaitsForDevice` — a session at the device step, with its user;
* `Host.Served.onlyWaiting` — no request leaves any other session in the table;
* `Host.Ends` — a request whose answer ends a login;
* `Host.Served.gone_of_ends` — such a login is gone;
* `Host.only_waiting_sessions_stay` — both, for every run, and what it means for the device page.
-/

set_option autoImplicit false

namespace TwoStepLogin.Host

open Login (surroundings deviceFlow PasswordTurn DevicePrepared)

/-- A session waits for its device, and its user is known. -/
structure WaitsForDevice (session : Session) : Prop where
  step_eq : session.step = deviceStep
  not_completed : session.completed = false
  has_user : ∃ user, session.user = some user

/-- Every session in a table waits for its device. -/
def OnlyWaiting (t : SessionTable) : Prop :=
  ∀ id session, t.Holds id session → WaitsForDevice session

/-- The answer to a request ends the login with this identifier: it was drawn for the request or
came with the device's response, and the login has failed or is complete. -/
def Ends (id : String) (t : ServiceTurn) : Prop :=
  ((t.command.Opens ∧ t.command.freshId = id) ∨
    (∃ fields, t.command.demand = .device fields) ∧ t.command.request.sessionId? = some id) ∧
  ((∃ step, t.reply.body = (StepAnswer.failed step).toJson.compact) ∨
    ∃ user, t.reply.body = (StepAnswer.authenticated user).toJson.compact)

variable {configuration : Login.Configuration} {timeout : Span} {jar : CookieJar} {id : String}
  {turns : List ServiceTurn} {t : ServiceTurn} {s s' : Service surroundings} {a : Arrival}
  {session : Session} {h : List (Exchange surroundings)} {r : Response}

/-! ## What a request leaves in the table -/

theorem WaitsForDevice.awaitsDevice (hw : WaitsForDevice session) :
    Service.awaitsDevice session = true := by
  rw [Service.awaitsDevice, hw.not_completed, hw.step_eq]
  rfl

/-- A new login that goes on waits for its device. -/
theorem waits_of_admitted {c : Credentials} {now : Instant} {step : UInt32} {page : String}
    (ht : PasswordTurn configuration c (.start id now) h (.nextStep step page) session) :
    WaitsForDevice session := by
  obtain ⟨-, user, huser, -⟩ := ht.user_of_nextStep
  cases ht with
  | prepared _ hc hp =>
    refine ⟨rfl, ?_, user, huser⟩
    rw [hp.eq_of_attributes, hc.eq_of_user]
    rfl

/-- No request leaves any other session in the table. -/
theorem Served.onlyWaiting (hs : Served configuration s a h r s') (hsound : s.sessions.Sound)
    (ho : OnlyWaiting s.sessions) : OnlyWaiting s'.sessions := by
  intro id session hh
  cases hs with
  | offhand _ _ => exact ho id session hh
  | unknown _ hu => exact ho id session (hu.holds hsound hh).2
  | shown _ _ _ => exact ho id session hh
  | mistimed _ _ _ => exact ho id session hh
  | loggedOut _ => exact ho id session (holds_others hh).2
  | admitted _ ht =>
    rcases holds_renewed hsound hh with ⟨-, rfl⟩ | ⟨-, hbefore⟩
    · exact waits_of_admitted ht
    · exact ho id session hbefore
  | turnedAway _ _ =>
    obtain ⟨hne, hh⟩ := SessionTable.holds_remove_iff.1 hh
    rcases holds_renewed hsound hh with ⟨hid, -⟩ | ⟨-, hbefore⟩
    · exact absurd hid hne
    · exact ho id session hbefore
  | authenticated _ hk _ => exact ho id session (hk.holds hsound hh).2
  | rejected _ hk _ => exact ho id session (hk.holds hsound hh).2

/-- The session that came with a device's response is gone afterwards, whatever came of it. -/
theorem Served.named_gone_of_device {fields : List (String × String)}
    (hs : Served configuration s a h r s') (hsound : s.sessions.Sound)
    (hd : a.demand = .device fields) (hn : a.request.sessionId? = some id) :
    ∀ session, ¬s'.sessions.Holds id session := by
  intro session hh
  cases hs with
  | unknown _ hu => exact (hu.holds hsound hh).1 hn
  | authenticated _ hk _ => exact (hk.holds hsound hh).1 hn
  | rejected _ hk _ => exact (hk.holds hsound hh).1 hn
  | offhand hother _ => cases hd.symm.trans hother
  | shown hother _ _ => cases hd.symm.trans hother
  | mistimed hother _ _ => cases hd.symm.trans hother
  | loggedOut hother => cases hd.symm.trans hother
  | admitted hother _ => cases hd.symm.trans hother
  | turnedAway hother _ => cases hd.symm.trans hother

/-- A login that fails at once is gone. -/
theorem Served.fresh_gone_of_failed {fields : List (String × String)} {step : UInt32}
    (hs : Served configuration s a h r s') (hd : a.demand = .login fields)
    (hr : r.body = (StepAnswer.failed step).toJson.compact) :
    ∀ session, ¬s'.sessions.Holds a.freshId session := by
  obtain ⟨new, -, ⟨_, _, rfl, -⟩ | ⟨_, -, rfl⟩⟩ := hs.of_login hd
  · exact absurd hr.symm (failed_ne_nextStep _ _ _)
  · exact fun session hh => (SessionTable.holds_remove_iff.1 hh).1 rfl

theorem Served.gone_of_ends (hs : Served configuration t.before t.command t.exchanges t.reply t.after)
    (hsound : t.before.sessions.Sound) (he : Ends id t) :
    ∀ session, ¬t.after.sessions.Holds id session := by
  obtain ⟨⟨⟨fields, hd⟩, rfl⟩ | ⟨⟨fields, hd⟩, hn⟩, hr⟩ := he
  · rcases hr with ⟨step, hr⟩ | ⟨user, hr⟩
    · exact hs.fresh_gone_of_failed hd hr
    · -- A password alone completes no login.
      obtain ⟨_, _, _, _, _, hdevice, -⟩ := hs.of_authenticated hr
      cases hd.symm.trans hdevice
  · exact hs.named_gone_of_device hsound hd hn

/-- A form is refused for its type, its size or its spelling. -/
theorem FormFault.status_ne_conflict (fault : FormFault) : fault.status ≠ 409 := by
  cases fault with
  | contentType => decide
  | tooLarge size =>
    show (413 : UInt16) ≠ 409
    decide
  | malformed => decide

theorem status_json_ne {status code : UInt16} (hne : status ≠ code) (cookie : Option Cookie)
    (value : Json) : (Response.json status cookie value).status ≠ code := hne

/-- Where all sessions wait for their devices, no device page comes too early or too late. -/
theorem Served.status_ne_conflict (hs : Served configuration s a h r s')
    (ho : OnlyWaiting s.sessions) : r.status ≠ 409 := by
  cases hs with
  | offhand _ hoff =>
    cases hoff with
    | notFound => decide
    | health => decide
    | refusedForm fault => exact fault.status_ne_conflict
  | mistimed _ hk haway =>
    have hw := (ho _ _ ⟨_, hk.live, hk.found⟩).awaitsDevice
    rw [haway] at hw
    cases hw
  | unknown _ _ => exact status_json_ne (by decide) _ _
  | shown _ _ _ => exact status_json_ne (by decide) _ _
  | loggedOut _ => exact status_json_ne (by decide) _ _
  | admitted _ _ => exact status_json_ne (by decide) _ _
  | turnedAway _ _ => exact status_json_ne (by decide) _ _
  | authenticated _ _ _ => exact status_json_ne (by decide) _ _
  | rejected _ _ _ => exact status_json_ne (by decide) _ _

/-! ## All requests -/

theorem onlyWaiting_of_played
    (hplay : Played serving ⟨deviceFlow configuration, .empty timeout, jar⟩ turns s) :
    OnlyWaiting s.sessions := by
  induction hplay with
  | nil => exact fun _ _ hh => absurd hh (SessionTable.not_holds_empty _)
  | snoc hbefore hy ih =>
    have hc := (consistent_of_played hbefore).1
    exact (serve_yields hc.flow_eq hc.sound hy).onlyWaiting hc.sound ih

/-- Whatever browsers send, whatever identifiers are drawn, whatever the clock shows, and whatever
directory and server answer: after every request each identifier in the table leads to a session of
that identifier, which waits for the device of its user; a login that has failed or is complete is gone
with the request that ended it; and the device page is never asked for at the wrong step. -/
theorem only_waiting_sessions_stay {σ : Type} (configuration : Login.Configuration)
    (timeout : Span) (jar : CookieJar) (others : Responder surroundings σ) (arrivals : List Arrival)
    (w : σ) :
    let turns := play serving others arrivals ⟨deviceFlow configuration, .empty timeout, jar⟩ w
    ∀ t ∈ turns,
      (∀ id handle, (id, handle) ∈ t.after.sessions.live → ∃ session,
        t.after.sessions.session? handle = some session ∧ session.id = id ∧
          WaitsForDevice session) ∧
      (∀ id, Ends id t → t.after.sessions.contains id = false) ∧ t.reply.status ≠ 409 := by
  intro turns t ht
  have hplay : Played serving ⟨deviceFlow configuration, .empty timeout, jar⟩ turns _ :=
    played_play serving others arrivals _ w
  obtain ⟨earlier, later, he, hbefore, hy⟩ := hplay.of_mem ht
  have hc := (consistent_of_played hbefore).1
  have hs := serve_yields hc.flow_eq hc.sound hy
  have hwaiting := onlyWaiting_of_played (hbefore.snoc hy)
  have hsound := (consistent_of_played (hbefore.snoc hy)).1.sound
  refine ⟨fun id handle hm => ?_, fun id hends => ?_, ?_⟩
  · obtain ⟨session, hsession, hid⟩ := hsound id handle hm
    exact ⟨session, hsession, hid, hwaiting id session ⟨handle, hm, hsession⟩⟩
  · exact hsound.not_holds_iff.1 (hs.gone_of_ends hc.sound hends)
  · exact hs.status_ne_conflict (onlyWaiting_of_played hbefore)

/-- Alice's session waits for her new device, and is gone when the device is accepted. -/
theorem enrollment_waits_and_leaves :
    let turns := play serving Login.obliging enrollmentArrivals
      ⟨deviceFlow Login.obligingConfiguration, .empty (.ofMinutes 10), ⟨true, 600⟩⟩ ()
    ∃ opened t session, turns = [opened, t] ∧ opened.after.sessions.Holds "first" session ∧
      WaitsForDevice session ∧ t.after.sessions.contains "first" = false := by
  intro turns
  have h : ∀ t ∈ turns, _ := only_waiting_sessions_stay Login.obligingConfiguration
    (.ofMinutes 10) ⟨true, 600⟩ Login.obliging enrollmentArrivals ()
  have hends : Ends "first" turns[1] := by
    refine ⟨.inr ⟨⟨[("tokenResponse", "signed"), ("authMethod", "enroll")], ?_⟩, ?_⟩,
      .inr ⟨some "alice", ?_⟩⟩
    · decide +kernel
    · decide +kernel
    · decide +kernel
  obtain ⟨opened, t, hsplit, hlive, hends⟩ : ∃ opened t, turns = [opened, t] ∧
      opened.after.sessions.live = [("first", 0)] ∧ Ends "first" t :=
    ⟨turns[0], turns[1], rfl, by decide +kernel, hends⟩
  have hopened : opened ∈ turns := hsplit ▸ List.mem_cons_self
  have hresponded : t ∈ turns := hsplit ▸ List.mem_cons_of_mem _ List.mem_cons_self
  have hmem : ("first", 0) ∈ opened.after.sessions.live := hlive ▸ List.mem_cons_self
  obtain ⟨session, hsession, -, hwaits⟩ := (h opened hopened).1 _ _ hmem
  exact ⟨opened, t, session, hsplit, ⟨_, hmem, hsession⟩, hwaits,
    (h t hresponded).2.1 "first" hends⟩

end TwoStepLogin.Host
