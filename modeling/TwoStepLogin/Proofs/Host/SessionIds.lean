import TwoStepLogin.Proofs.Host.SessionLife

/-!
# What a session identifier is good for

An identifier is good for one login of one user, and only for so long. This holds for every run of a
host of the device flow, as long as new identifiers are new and time does not go back.

* `Host.FreshIds`, `Host.Forward` — what is expected of the requests;
* `Host.Presents` — a request that hopes to use an identifier;
* `Host.Served.of_authenticated` — only a response to an open challenge lets anyone in;
* `Host.Issued.not_spends` — an identifier in the table was never spent;
* `Host.session_ids_are_single_use` — what an identifier is good for.
-/

set_option autoImplicit false

namespace TwoStepLogin.Host

open Login (surroundings deviceFlow told DeviceTurn)

/-- An identifier that is drawn was neither drawn nor sent before. -/
def FreshIds (arrivals : List Arrival) : Prop :=
  (∀ a ∈ arrivals, a.Opens → a.request.sessionId? ≠ some a.freshId) ∧
    arrivals.Pairwise fun earlier later => later.Opens →
      earlier.request.sessionId? ≠ some later.freshId ∧
        (earlier.Opens → earlier.freshId ≠ later.freshId)

/-- Time does not go back. -/
def Forward (arrivals : List Arrival) : Prop :=
  arrivals.Pairwise fun earlier later => earlier.now.nanoseconds ≤ later.now.nanoseconds

/-- A request asks for the challenge of a login, or responds to it. -/
def Presents (id : String) (t : ServiceTurn) : Prop :=
  t.command.request.sessionId? = some id ∧
    (t.command.demand = .challenge ∨ ∃ fields, t.command.demand = .device fields)

variable {configuration : Login.Configuration} {timeout : Span} {jar : CookieJar} {id : String}
  {turns earlier later : List ServiceTurn} {t : ServiceTurn} {s s' : Service surroundings}
  {a : Arrival} {session : Session} {h : List (Exchange surroundings)} {r : Response}

/-! ## Reading answers -/

theorem Offhand.opening_ne (ho : Offhand r) (user : Option String) :
    opening r.body ≠ opening (StepAnswer.authenticated user).toJson.compact := by
  rw [opening_authenticated]
  cases ho with
  | notFound => decide
  | health => decide
  | refusedForm fault =>
    intro he
    refine opening_refusedForm fault ?_
    rw [show opening fault.message = _ from he]
    rfl

/-- Only a response to an open challenge lets anyone in. -/
theorem Served.of_authenticated {user : Option String} (hs : Served configuration s a h r s')
    (hr : r.body = (StepAnswer.authenticated user).toJson.compact) :
    ∃ fields id handle before after, a.demand = .device fields ∧ Known s a id handle before ∧
      DeviceTurn configuration (.ofPairs fields) before h .completed after ∧
      r = .json 200 (some s.jar.expired)
        (StepAnswer.authenticated (Service.userName? after)).toJson := by
  have ho := congrArg opening hr
  have hword := opening_authenticated user
  cases hs with
  | offhand _ hoff => exact absurd ho (hoff.opening_ne user)
  | unknown _ _ => exact absurd (ho.trans hword) (by decide)
  | shown _ _ _ => simp [Response.json] at ho
  | mistimed _ _ _ => exact absurd (ho.trans hword) (by decide)
  | loggedOut _ =>
    have hout : opening (Json.object [("status", .string "logged_out")]).compact ≠
        ['{', '"', 's', 't', 'a', 't', 'u', 's', '"', ':', '"', 'a'] := by decide
    exact absurd (ho.trans hword) hout
  | admitted _ _ => simp [Response.json] at ho
  | turnedAway _ _ => simp [Response.json] at ho
  | authenticated hd hk ht => exact ⟨_, _, _, _, _, hd, hk, ht, rfl⟩
  | rejected _ _ _ => simp [Response.json] at ho

/-- A cookie for a session is only sent where its identifier was drawn. -/
theorem Served.of_cookie (hs : Served configuration s a h r s')
    (hr : r.cookie = some (s.jar.session id)) : a.Opens ∧ a.freshId = id := by
  have hexpired : s.jar.expired ≠ s.jar.session id := by
    intro he
    have hsite : SameSite.strict = SameSite.lax := congrArg Cookie.sameSite he
    cases hsite
  cases hs with
  | offhand _ hoff => cases hoff <;> cases hr
  | unknown _ _ => cases hr
  | shown _ _ _ => cases hr
  | mistimed _ _ _ => cases hr
  | loggedOut _ => exact absurd (Option.some.inj hr) hexpired
  | admitted hd _ => exact ⟨⟨_, hd⟩, congrArg Cookie.value (Option.some.inj hr)⟩
  | turnedAway _ _ => exact absurd (Option.some.inj hr) hexpired
  | authenticated _ _ _ => exact absurd (Option.some.inj hr) hexpired
  | rejected _ _ _ => exact absurd (Option.some.inj hr) hexpired

/-- A request that presents an identifier finds its session or learns that there is none. -/
theorem Served.of_presents (hs : Served configuration s a h r s')
    (hn : a.request.sessionId? = some id)
    (hd : a.demand = .challenge ∨ ∃ fields, a.demand = .device fields) :
    (r = Service.noSession ∧ h = []) ∨ ∃ handle session, Known s a id handle session := by
  have hknown {other : String} {handle : Handle} {session : Session}
      (hk : Known s a other handle session) : ∃ handle session, Known s a id handle session := by
    obtain rfl := Option.some.inj (hk.named.symm.trans hn)
    exact ⟨handle, session, hk⟩
  cases hs with
  | unknown _ _ => exact .inl ⟨rfl, rfl⟩
  | shown _ hk _ => exact .inr (hknown hk)
  | mistimed _ hk _ => exact .inr (hknown hk)
  | authenticated _ hk _ => exact .inr (hknown hk)
  | rejected _ hk _ => exact .inr (hknown hk)
  | offhand hother _ => simp [hother] at hd
  | loggedOut hother => simp [hother] at hd
  | admitted hother _ => simp [hother] at hd
  | turnedAway hother _ => simp [hother] at hd

/-! ## Drawing identifiers -/

/-- What is drawn for a login was not seen earlier. -/
theorem FreshIds.of_split (hf : FreshIds (turns.map Turn.command)) (he : turns = earlier ++ t :: later)
    (ho : t.command.Opens) : t.command.request.sessionId? ≠ some t.command.freshId ∧
      ∀ u ∈ earlier, u.command.request.sessionId? ≠ some t.command.freshId ∧
        (u.command.Opens → u.command.freshId ≠ t.command.freshId) := by
  subst he
  obtain ⟨hself, hpairs⟩ := hf
  rw [List.map_append, List.map_cons, List.pairwise_append] at hpairs
  refine ⟨hself _ (List.mem_map_of_mem (List.mem_append_right _ List.mem_cons_self)) ho, ?_⟩
  intro u hu
  exact hpairs.2.2 _ (List.mem_map_of_mem hu) _ List.mem_cons_self ho

/-- An identifier in the table was never spent, not even before it was drawn. -/
theorem Issued.not_spends (hi : Issued jar turns id session) (hf : FreshIds (turns.map Turn.command)) :
    ∀ u ∈ turns, ¬Spends id u := by
  obtain ⟨earlier, opened, later, user, he, hadmits, -, -, hlater⟩ := hi
  obtain ⟨fields, step, page, hd, rfl, hreply, -⟩ := hadmits
  obtain ⟨hself, hbefore⟩ := hf.of_split he ⟨fields, hd⟩
  intro u hu
  rw [he] at hu
  rcases List.mem_append.1 hu with hu | hu
  · obtain ⟨hn, hne⟩ := hbefore u hu
    exact not_spends_of_ne hn hne
  · rcases List.mem_cons.1 hu with rfl | hu
    · rintro (⟨hn, -⟩ | ⟨-, -, failure, hbody⟩)
      · exact hself hn
      · rw [hreply] at hbody
        exact failed_ne_nextStep _ _ _ hbody.symm
    · exact hlater u hu

/-- An identifier in the table was drawn when its session was made. -/
theorem Issued.createdAt_eq (hi : Issued jar turns id session)
    (hf : FreshIds (turns.map Turn.command)) (ht : t ∈ turns) (ho : t.command.Opens)
    (hid : t.command.freshId = id) : session.createdAt = t.command.created := by
  obtain ⟨earlier, opened, later, user, he, ⟨fields, _, _, hd, rfl, -⟩, hcreated, -⟩ := hi
  obtain ⟨-, hbefore⟩ := hf.of_split he ⟨fields, hd⟩
  rw [he] at ht
  rcases List.mem_append.1 ht with ht | ht
  · exact absurd hid ((hbefore t ht).2 ho)
  · rcases List.mem_cons.1 ht with rfl | ht
    · exact hcreated
    · obtain ⟨mid, rest, rfl⟩ := List.append_of_mem ht
      have he' : turns = (earlier ++ opened :: mid) ++ t :: rest := by simpa using he
      obtain ⟨-, hlater⟩ := hf.of_split he' ho
      have hopened : opened ∈ earlier ++ opened :: mid :=
        List.mem_append_right _ List.mem_cons_self
      exact absurd hid.symm ((hlater opened hopened).2 ⟨fields, hd⟩)

/-- No identifier is in the table before it is drawn. -/
theorem Consistent.not_contains_fresh (hc : Consistent configuration timeout jar earlier s)
    (hfresh : ∀ u ∈ earlier, u.command.Opens → u.command.freshId ≠ id) :
    s.sessions.contains id = false := by
  refine hc.sound.not_holds_iff.1 fun session hh => ?_
  obtain ⟨before, opened, after, user, rfl, ⟨fields, _, _, hd, hid, -⟩, -⟩ := hc.issued id session hh
  exact hfresh opened (List.mem_append_right _ List.mem_cons_self) ⟨fields, hd⟩ hid

/-! ## What an identifier is good for -/

/-- The ends of a login. -/
theorem Served.of_login {fields : List (String × String)} (hs : Served configuration s a h r s')
    (hd : a.demand = .login fields) : ∃ new : Session, new.id = a.freshId ∧
      ((∃ step page, r = .json 200 (some (s.jar.session a.freshId))
            (StepAnswer.nextStep step page).toJson ∧ s' = s.withSessions (s.renewed a new)) ∨
        ∃ step, r = .json 401 (some s.jar.expired) (StepAnswer.failed step).toJson ∧
          s' = (s.withSessions (s.renewed a new)).forget a.freshId) := by
  cases hs with
  | @admitted _ _ step page new _ ht => exact ⟨new, ht.id_eq, .inl ⟨step, page, rfl, rfl⟩⟩
  | @turnedAway _ _ step new _ ht => exact ⟨new, ht.id_eq, .inr ⟨step, rfl, rfl⟩⟩
  | offhand hother _ => cases hd.symm.trans hother
  | unknown hother _ => simp [hd] at hother
  | shown hother _ _ => cases hd.symm.trans hother
  | mistimed hother _ _ => cases hd.symm.trans hother
  | loggedOut hother => cases hd.symm.trans hother
  | authenticated hother _ _ => cases hd.symm.trans hother
  | rejected hother _ _ => cases hd.symm.trans hother

/-- A login takes the session that its request names out of the table, whatever comes of it. -/
theorem Served.named_removed {fields : List (String × String)} (hs : Served configuration s a h r s')
    (hsound : s.sessions.Sound) (hd : a.demand = .login fields)
    (hself : a.request.sessionId? ≠ some a.freshId) (hn : a.request.sessionId? = some id) :
    s'.sessions.contains id = false := by
  obtain ⟨new, hid, hends⟩ := hs.of_login hd
  have hrenewed : (s.renewed a new).Sound := sound_renewed hsound hid
  have hgone : ∀ session, ¬(s.renewed a new).Holds id session := by
    intro session hh
    rcases holds_renewed hsound hh with ⟨rfl, -⟩ | ⟨hn', -⟩
    · exact hself hn
    · exact hn' hn
  rcases hends with ⟨_, _, -, rfl⟩ | ⟨_, -, rfl⟩
  · exact hrenewed.not_holds_iff.1 hgone
  · exact (hrenewed.remove a.freshId).not_holds_iff.1 fun session hh =>
      hgone session (SessionTable.holds_remove_iff.1 hh).2

/-- A login that goes on sends its own identifier. -/
theorem Served.of_nextStep {fields : List (String × String)} {step : UInt32} {page : String}
    (hs : Served configuration s a h r s') (hd : a.demand = .login fields)
    (hr : r.body = (StepAnswer.nextStep step page).toJson.compact) :
    r.cookie = some (s.jar.session a.freshId) := by
  obtain ⟨new, -, ⟨_, _, rfl, -⟩ | ⟨failure, rfl, -⟩⟩ := hs.of_login hd
  · rfl
  · exact absurd hr (failed_ne_nextStep _ _ _)

/-- A login forgets the session that its request names. If it goes on, the browser is sent an
identifier that nobody has sent and the host has neither sent nor kept before. -/
def StartsAnew (jar : CookieJar) (earlier : List ServiceTurn) (t : ServiceTurn) : Prop :=
  (∀ id, t.command.request.sessionId? = some id → t.after.sessions.contains id = false) ∧
    ∀ step page, t.reply.body = (StepAnswer.nextStep step page).toJson.compact →
      t.reply.cookie = some (jar.session t.command.freshId) ∧
        t.before.sessions.contains t.command.freshId = false ∧
        t.command.request.sessionId? ≠ some t.command.freshId ∧
        ∀ u ∈ earlier, u.command.request.sessionId? ≠ some t.command.freshId ∧
          u.reply.cookie ≠ some (jar.session t.command.freshId)

/-- A response of the device lets the user in whom an earlier login with the same identifier has
resolved, and that login was not too long ago. -/
def LetsIn (timeout : Span) (jar : CookieJar) (earlier : List ServiceTurn) (t : ServiceTurn) : Prop :=
  ∃ before opened between id user, earlier = before ++ opened :: between ∧
    Admits jar id user opened ∧ t.command.request.sessionId? = some id ∧
    (∃ fields, t.command.demand = .device fields) ∧
    t.command.now.nanoseconds - opened.command.created.nanoseconds ≤ timeout.nanoseconds ∧
    t.reply = .json 200 (some jar.expired) (StepAnswer.authenticated (some user.userName)).toJson

/-- The host knows no session for the request, and asks nobody about it. -/
def Unheard (t : ServiceTurn) : Prop := t.reply = Service.noSession ∧ t.exchanges = []

theorem Consistent.startsAnew {fields : List (String × String)}
    (hc : Consistent configuration timeout jar earlier t.before)
    (hall : ∀ u ∈ earlier, u.before.jar = jar ∧
      Served configuration u.before u.command u.exchanges u.reply u.after)
    (hs : Served configuration t.before t.command t.exchanges t.reply t.after)
    (hf : FreshIds (turns.map Turn.command)) (he : turns = earlier ++ t :: later)
    (hd : t.command.demand = .login fields) : StartsAnew jar earlier t := by
  obtain ⟨hself, hbefore⟩ := hf.of_split he ⟨fields, hd⟩
  refine ⟨fun id hn => hs.named_removed hc.sound hd hself hn, fun step page hr => ?_⟩
  have hcookie := hs.of_nextStep hd hr
  rw [hc.jar_eq] at hcookie
  refine ⟨hcookie, hc.not_contains_fresh fun u hu => (hbefore u hu).2, hself, fun u hu => ?_⟩
  refine ⟨(hbefore u hu).1, fun hsent => ?_⟩
  obtain ⟨hjar, hserved⟩ := hall u hu
  rw [← hjar] at hsent
  obtain ⟨hopens, hid⟩ := hserved.of_cookie hsent
  exact (hbefore u hu).2 hopens hid

theorem Consistent.letsIn {user : Option String}
    (hc : Consistent configuration timeout jar earlier t.before)
    (hs : Served configuration t.before t.command t.exchanges t.reply t.after)
    (hr : t.reply.body = (StepAnswer.authenticated user).toJson.compact) :
    LetsIn timeout jar earlier t := by
  obtain ⟨fields, id, handle, before, after, hd, hk, ht, hreply⟩ := hs.of_authenticated hr
  obtain ⟨first, opened, between, bound, he, hadmits, hcreated, huser, -⟩ :=
    hc.issued id before ⟨handle, hk.live, hk.found⟩
  have hyoung : ¬timeout.nanoseconds <
      t.command.now.nanoseconds - opened.command.created.nanoseconds := by
    rw [← hc.timeout_eq, ← hcreated, ← SessionTable.isExpired_iff, hk.young]
    exact Bool.false_ne_true
  refine ⟨first, opened, between, id, bound, he, hadmits, hk.named, ⟨fields, hd⟩, by omega, ?_⟩
  rw [hreply, Service.userName?, ht.user_eq, huser, hc.jar_eq]
  rfl

/-- A request with an identifier that was spent is not heard. -/
theorem Consistent.unheard_of_spent (hc : Consistent configuration timeout jar earlier t.before)
    (hs : Served configuration t.before t.command t.exchanges t.reply t.after)
    (hf : FreshIds (earlier.map Turn.command)) {u : ServiceTurn} (hu : u ∈ earlier)
    (hspent : Spends id u) (hp : Presents id t) : Unheard t := by
  rcases hs.of_presents hp.1 hp.2 with hnone | ⟨handle, session, hk⟩
  · exact hnone
  · exact absurd hspent ((hc.issued id session ⟨handle, hk.live, hk.found⟩).not_spends hf u hu)

/-- A request with an identifier that is too old is not heard. -/
theorem Consistent.unheard_of_old (hc : Consistent configuration timeout jar earlier t.before)
    (hs : Served configuration t.before t.command t.exchanges t.reply t.after)
    (hf : FreshIds (earlier.map Turn.command)) {u : ServiceTurn} (hu : u ∈ earlier)
    (ho : u.command.Opens) (hold : timeout.nanoseconds <
      t.command.now.nanoseconds - u.command.created.nanoseconds)
    (hp : Presents u.command.freshId t) : Unheard t := by
  rcases hs.of_presents hp.1 hp.2 with hnone | ⟨handle, session, hk⟩
  · exact hnone
  · have hcreated :=
      (hc.issued _ session ⟨handle, hk.live, hk.found⟩).createdAt_eq hf hu ho rfl
    have hexpired := (SessionTable.isExpired_iff t.before.sessions t.command.now session).2
      (by rw [hc.timeout_eq, hcreated]; exact hold)
    rw [hk.young] at hexpired
    cases hexpired

/-- A run up to a request, and the request. -/
theorem consistent_of_split
    (hplay : Played serving ⟨deviceFlow configuration, .empty timeout, jar⟩ turns s)
    (he : turns = earlier ++ t :: later) :
    Consistent configuration timeout jar earlier t.before ∧
      (∀ u ∈ earlier, u.before.jar = jar ∧
        Served configuration u.before u.command u.exchanges u.reply u.after) ∧
      Served configuration t.before t.command t.exchanges t.reply t.after := by
  obtain ⟨hbefore, hy, -⟩ := hplay.split he
  obtain ⟨hc, hall⟩ := consistent_of_played hbefore
  exact ⟨hc, hall, serve_yields hc.flow_eq hc.sound hy⟩

theorem FreshIds.of_append {front rest : List Arrival} (hf : FreshIds (front ++ rest)) :
    FreshIds front := by
  obtain ⟨hself, hpairs⟩ := hf
  exact ⟨fun a ha => hself a (List.mem_append_left _ ha), (List.pairwise_append.1 hpairs).1⟩

/-- Whatever browsers send, and whatever directory and server answer, if new identifiers are new and
time does not go back: every login that goes on gets an identifier of its own and ends the one that
came with it; a browser is let in only with the identifier of an earlier login that is not too old, as
the user of that login; and an identifier that was spent or is too old is never heard again. -/
theorem session_ids_are_single_use {σ : Type} {arrivals : List Arrival} (hfresh : FreshIds arrivals)
    (hforward : Forward arrivals) (configuration : Login.Configuration) (timeout : Span)
    (jar : CookieJar) (others : Responder surroundings σ) (w : σ) :
    let turns := play serving others arrivals ⟨deviceFlow configuration, .empty timeout, jar⟩ w
    (∀ earlier t later fields, turns = earlier ++ t :: later →
        t.command.demand = .login fields → StartsAnew jar earlier t) ∧
      (∀ earlier t later user, turns = earlier ++ t :: later →
        t.reply.body = (StepAnswer.authenticated user).toJson.compact →
          LetsIn timeout jar earlier t) ∧
      (∀ earlier t later u id, turns = earlier ++ t :: later → u ∈ earlier → Spends id u →
        Presents id t → Unheard t) ∧
      ∀ earlier t later u v, turns = earlier ++ t :: later → u ∈ earlier → u.command.Opens →
        v ∈ earlier ++ [t] → timeout.nanoseconds <
          v.command.now.nanoseconds - u.command.created.nanoseconds →
        Presents u.command.freshId t → Unheard t := by
  intro turns
  have hplay : Played serving _ turns _ := played_play serving others arrivals _ w
  have hcommands : turns.map Turn.command = arrivals := map_command_play _ _ _ _ _
  have hf : FreshIds (turns.map Turn.command) := by rw [hcommands]; exact hfresh
  have hfirst : ∀ earlier t later, turns = earlier ++ t :: later →
      FreshIds (earlier.map Turn.command) := by
    intro earlier t later he
    rw [he, List.map_append] at hf
    exact hf.of_append
  refine ⟨fun earlier t later fields he hd => ?_, fun earlier t later user he hr => ?_,
    fun earlier t later u id he hu hspent hp => ?_,
    fun earlier t later u v he hu ho hv hold hp => ?_⟩
  · obtain ⟨hc, hall, hs⟩ := consistent_of_split hplay he
    exact hc.startsAnew hall hs hf he hd
  · obtain ⟨hc, -, hs⟩ := consistent_of_split hplay he
    exact hc.letsIn hs hr
  · obtain ⟨hc, -, hs⟩ := consistent_of_split hplay he
    exact hc.unheard_of_spent hs (hfirst _ _ _ he) hu hspent hp
  · obtain ⟨hc, -, hs⟩ := consistent_of_split hplay he
    refine hc.unheard_of_old hs (hfirst _ _ _ he) hu ho ?_ hp
    -- It is at least as late now as it was when the session was found to be too old.
    have hlater : v.command.now.nanoseconds ≤ t.command.now.nanoseconds := by
      rcases List.mem_append.1 hv with hv | hv
      · rw [← hcommands, he, List.map_append, Forward, List.pairwise_append] at hforward
        exact hforward.2.2 _ (List.mem_map_of_mem hv) _ List.mem_cons_self
      · obtain rfl := List.mem_singleton.1 hv
        exact Int.le_refl _
    omega

/-- A form with these fields, sent to a page. -/
def formRequest (target : String) (cookies : List String) (form : String) : Request :=
  ⟨"POST", target, cookies, some "application/x-www-form-urlencoded", Utf8.encodeString form⟩

/-- Alice sends her password and then the response of a new device. -/
def enrollmentArrivals : List Arrival :=
  [⟨formRequest "/auth/login" [] "username=alice&password=secret", "first", ⟨0⟩, ⟨0⟩⟩,
    ⟨formRequest "/auth/u2f/login" ["u2f_session=first"] "tokenResponse=signed&authMethod=enroll",
      "second", ⟨1⟩, ⟨1⟩⟩]

theorem enrollmentArrivals_fresh : FreshIds enrollmentArrivals := by
  have hnone : Request.sessionId? (formRequest "/auth/login" [] "username=alice&password=secret") =
      none := rfl
  have hfirst : Request.sessionId? (formRequest "/auth/u2f/login" ["u2f_session=first"]
      "tokenResponse=signed&authMethod=enroll") = some "first" := by decide +kernel
  simp [FreshIds, enrollmentArrivals, hnone, hfirst]

theorem enrollmentArrivals_forward : Forward enrollmentArrivals := by
  simp [Forward, enrollmentArrivals]

/-- Alice is let in. -/
theorem enrollment_lets_in :
    let turns := play serving Login.obliging enrollmentArrivals
      ⟨deviceFlow Login.obligingConfiguration, .empty (.ofMinutes 10), ⟨true, 600⟩⟩ ()
    ∃ opened t, turns = [opened, t] ∧
      t.reply.body = (StepAnswer.authenticated (some "alice")).toJson.compact ∧
      LetsIn (.ofMinutes 10) ⟨true, 600⟩ [opened] t := by
  intro turns
  have h := session_ids_are_single_use enrollmentArrivals_fresh enrollmentArrivals_forward
    Login.obligingConfiguration (.ofMinutes 10) ⟨true, 600⟩ Login.obliging ()
  have hsplit : turns = [turns[0]] ++ turns[1] :: [] := rfl
  have hbody : turns[1].reply.body = (StepAnswer.authenticated (some "alice")).toJson.compact := by
    decide +kernel
  exact ⟨turns[0], turns[1], rfl, hbody, h.2.1 _ _ _ _ hsplit hbody⟩

end TwoStepLogin.Host
