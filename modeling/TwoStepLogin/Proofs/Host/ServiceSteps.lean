import TwoStepLogin.Host.Service
import TwoStepLogin.Proofs.Host.TableLaws
import TwoStepLogin.Proofs.Login.DeviceFlow

/-!
# What a request can do

A host reads a request, looks for its session and takes it through the flow. The relation below
lists all that may come of one request to a host of the device flow.

* `Host.Demand`, `Host.Arrival.demand` — what a request asks for, once its form is read;
* `Host.Unknown` — the ends of not finding a session;
* `Host.Served` — the ends of a request.
-/

set_option autoImplicit false

namespace TwoStepLogin.Host

open Login (surroundings deviceFlow PasswordTurn DeviceTurn StepOutcome)

/-- What a request asks for. Where a form is needed, one that is not accepted asks for nothing. -/
inductive Demand where
  | login (fields : List (String × String))
  | challenge
  | device (fields : List (String × String))
  | logout
  | other
  deriving DecidableEq, Repr

/-- What a request asks for, once its form is read. -/
def Arrival.demand (a : Arrival) : Demand :=
  match a.request.route?, a.request.form with
  | some .login, .ok fields => .login fields
  | some .challenge, _ => .challenge
  | some .device, .ok fields => .device fields
  | some .logout, _ => .logout
  | _, _ => .other

namespace Service

variable {I : Interface}

/-- The sessions of a host without the one that a request names. -/
def others (s : Service I) (a : Arrival) : SessionTable :=
  match a.request.sessionId? with
  | none => s.sessions
  | some id => s.sessions.remove id

theorem forgetPrevious_eq (s : Service I) (a : Arrival) :
    s.forgetPrevious a = s.withSessions (s.others a) := by
  unfold forgetPrevious others
  cases a.request.sessionId? with
  | none => rfl
  | some id => rfl

/-- The sessions of a host with a new one for a login, which takes the place of an older one. -/
def renewed (s : Service I) (a : Arrival) (session : Session) : SessionTable :=
  (((s.others a).sweep a.now).insert (.start a.freshId a.created)).write (s.others a).cells.length
    session

end Service

/-- Responses that have nothing to do with a session. -/
inductive Offhand : Response → Prop where
  | notFound : Offhand .notFound
  | health : Offhand (.json 200 none Health.current.toJson)
  | refusedForm (fault : FormFault) : Offhand (.refusedForm fault)

/-- The ends of not finding the session of a request. -/
inductive Unknown {I : Interface} (s : Service I) (a : Arrival) : SessionTable → Prop where
  | unnamed : a.request.sessionId? = none → Unknown s a s.sessions
  | looked {id : String} {t : SessionTable} : a.request.sessionId? = some id →
      s.sessions.Looked id a.now none t → Unknown s a t

/-- A request that names a session that can be found and is not too old. -/
structure Known {I : Interface} (s : Service I) (a : Arrival) (id : String) (handle : Handle)
    (session : Session) : Prop where
  named : a.request.sessionId? = some id
  live : (id, handle) ∈ s.sessions.live
  found : s.sessions.session? handle = some session
  young : s.sessions.isExpired a.now session = false

/-- The ends of a request. -/
inductive Served (configuration : Login.Configuration) (s : Service surroundings) (a : Arrival) :
    List (Exchange surroundings) → Response → Service surroundings → Prop where
  | offhand {r : Response} : a.demand = .other → Offhand r → Served configuration s a [] r s
  /-- There is no login that the request could belong to. -/
  | unknown {t : SessionTable} : (a.demand = .challenge ∨ ∃ fields, a.demand = .device fields) →
      Unknown s a t → Served configuration s a [] Service.noSession (s.withSessions t)
  | shown {id : String} {handle : Handle} {session : Session} : a.demand = .challenge →
      Known s a id handle session → Service.awaitsDevice session = true →
      Served configuration s a [] (.json 200 none session.pending.toJson) s
  | mistimed {id : String} {handle : Handle} {session : Session} : a.demand = .challenge →
      Known s a id handle session → Service.awaitsDevice session = false →
      Served configuration s a [] Service.wrongStep s
  | loggedOut : a.demand = .logout →
      Served configuration s a []
        (.json 200 (some s.jar.expired) (.object [("status", .string "logged_out")]))
        (s.withSessions (s.others a))
  | admitted {fields : List (String × String)} {h : List (Exchange surroundings)} {step : UInt32}
      {page : String} {session : Session} : a.demand = .login fields →
      PasswordTurn configuration (Service.credentials (.ofPairs fields))
        (.start a.freshId a.created) h (.nextStep step page) session →
      Served configuration s a h
        (.json 200 (some (s.jar.session a.freshId)) (StepAnswer.nextStep step page).toJson)
        (s.withSessions (s.renewed a session))
  | turnedAway {fields : List (String × String)} {h : List (Exchange surroundings)} {step : UInt32}
      {session : Session} : a.demand = .login fields →
      PasswordTurn configuration (Service.credentials (.ofPairs fields))
        (.start a.freshId a.created) h (.failed step) session →
      Served configuration s a h
        (.json 401 (some s.jar.expired) (StepAnswer.failed step).toJson)
        ((s.withSessions (s.renewed a session)).forget a.freshId)
  | authenticated {fields : List (String × String)} {id : String} {handle : Handle}
      {h : List (Exchange surroundings)} {before after : Session} : a.demand = .device fields →
      Known s a id handle before →
      DeviceTurn configuration (.ofPairs fields) before h .completed after →
      Served configuration s a h
        (.json 200 (some s.jar.expired) (StepAnswer.authenticated (Service.userName? after)).toJson)
        ((s.withSessions (s.sessions.write handle after)).forget id)
  | rejected {fields : List (String × String)} {id : String} {handle : Handle}
      {h : List (Exchange surroundings)} {step : UInt32} {before after : Session} :
      a.demand = .device fields → Known s a id handle before →
      DeviceTurn configuration (.ofPairs fields) before h (.failed step) after →
      Served configuration s a h
        (.json 401 (some s.jar.expired) (StepAnswer.failed step).toJson)
        ((s.withSessions (s.sessions.write handle after)).forget id)

variable {I : Interface} {configuration : Login.Configuration} {s : Service surroundings}
  {a : Arrival} {h : List (Exchange surroundings)} {r : Response} {s' : Service surroundings}

theorem current_yields {s s' : Service I} {h : List (Exchange I)}
    {found : Option (String × Handle)} (ht : s.sessions.Sound)
    (hy : (s.current a).Yields h (found, s')) : h = [] ∧
      ((found = none ∧ ∃ t, Unknown s a t ∧ s' = s.withSessions t) ∨
        ∃ id handle session, found = some (id, handle) ∧ Known s a id handle session ∧ s' = s) := by
  unfold Service.current at hy
  split at hy
  · rename_i hn
    obtain ⟨rfl, he⟩ := hy
    cases he
    exact ⟨rfl, .inl ⟨rfl, _, .unnamed hn, rfl⟩⟩
  · rename_i id hid
    obtain ⟨⟨result, t⟩, h₁, h₂, rfl, hfind, rfl, he⟩ := Program.yields_bind.1 hy
    obtain ⟨rfl, hl⟩ := ht.find_yields hfind
    cases he
    refine ⟨rfl, ?_⟩
    cases hl with
    | missing hm => exact .inl ⟨rfl, _, .looked hid (.missing hm), rfl⟩
    | expired hh hx => exact .inl ⟨rfl, _, .looked hid (.expired hh hx), rfl⟩
    | found hm hs hx => exact .inr ⟨id, _, _, rfl, ⟨hid, hm, hs, hx⟩, rfl⟩

theorem create_yields {t t' : SessionTable} {id : String} {created now : Instant} {handle : Handle}
    {h : List (Exchange I)}
    (hy : (t.create id created now : Program I (Handle × SessionTable)).Yields h (handle, t')) :
    h = [] ∧ handle = t.cells.length ∧ t' = (t.sweep now).insert (.start id created) := by
  unfold SessionTable.create at hy
  extract_lets swept dropped finish at hy
  have hfinish : (finish ()).Yields h (handle, t') := by
    split at hy
    · exact hy
    · exact hy
  obtain ⟨rfl, he⟩ := hfinish
  cases he
  exact ⟨rfl, rfl, rfl⟩

/-- The ends of telling a browser what became of a submission. -/
inductive Concluded (s : Service I) (id : String) (user : Option String) :
    StepOutcome → Response → Service I → Prop where
  | nextStep {step : UInt32} {page : String} : Concluded s id user (.nextStep step page)
      (.json 200 (some (s.jar.session id)) (StepAnswer.nextStep step page).toJson) s
  | completed : Concluded s id user .completed
      (.json 200 (some s.jar.expired) (StepAnswer.authenticated user).toJson) (s.forget id)
  | failed {step : UInt32} : Concluded s id user (.failed step)
      (.json 401 (some s.jar.expired) (StepAnswer.failed step).toJson) (s.forget id)

theorem conclude_yields {s s' : Service I} {id : String} {user : Option String}
    {outcome : StepOutcome} {h : List (Exchange I)}
    (hy : (s.conclude id user outcome).Yields h (r, s')) :
    h = [] ∧ Concluded s id user outcome r s' := by
  cases outcome with
  | nextStep step page =>
    obtain ⟨rfl, he⟩ := hy
    cases he
    exact ⟨rfl, .nextStep⟩
  | completed =>
    obtain ⟨rfl, he⟩ := hy
    cases he
    exact ⟨rfl, .completed⟩
  | failed step =>
    obtain ⟨rfl, he⟩ := hy
    cases he
    exact ⟨rfl, .failed⟩

/-- A submission goes to the session of the handle, and its host concludes. -/
theorem submit_yields {s s' : Service I} {id : String} {handle : Handle} {session : Session}
    {submission : Session → Program I (StepOutcome × Session)} {h : List (Exchange I)}
    (hs : s.sessions.session? handle = some session)
    (hy : (s.submit id handle submission).Yields h (r, s')) :
    ∃ outcome after, (submission session).Yields h (outcome, after) ∧
      Concluded (s.withSessions (s.sessions.write handle after)) id (Service.userName? after)
        outcome r s' := by
  unfold Service.submit at hy
  rw [hs] at hy
  obtain ⟨⟨outcome, after⟩, h₁, h₂, rfl, hsub, hy₁⟩ := Program.yields_bind.1 hy
  obtain ⟨rfl, hc⟩ := conclude_yields hy₁
  rw [List.append_nil]
  exact ⟨outcome, after, hsub, hc⟩

theorem login_yields {fields : List (String × String)} (hf : s.flow = deviceFlow configuration)
    (hd : a.demand = .login fields) (hy : (s.login a fields).Yields h (r, s')) :
    Served configuration s a h r s' := by
  unfold Service.login at hy
  rw [Service.forgetPrevious_eq] at hy
  obtain ⟨⟨handle, t⟩, h₁, h₂, rfl, hcreate, hsub⟩ := Program.yields_bind.1 hy
  obtain ⟨rfl, rfl, rfl⟩ := create_yields hcreate
  obtain ⟨outcome, after, hs, hc⟩ :=
    submit_yields (SessionTable.session?_insert_self ((s.others a).sweep a.now) _) hsub
  have hs : ((deviceFlow configuration).submitCredentials _ _ _).Yields h₂ (outcome, after) := hf ▸ hs
  have ht := Login.passwordTurn_of_yields hs
  rw [List.nil_append]
  cases hc with
  | nextStep => exact .admitted hd ht
  | completed => cases ht
  | failed => exact .turnedAway hd ht

theorem device_yields {fields : List (String × String)} (hf : s.flow = deviceFlow configuration)
    (hsound : s.sessions.Sound) (hd : a.demand = .device fields)
    (hy : (s.device a fields).Yields h (r, s')) : Served configuration s a h r s' := by
  unfold Service.device at hy
  obtain ⟨⟨found, s₁⟩, h₁, h₂, rfl, hcur, hy₁⟩ := Program.yields_bind.1 hy
  obtain ⟨rfl, ⟨rfl, t, hu, rfl⟩ | ⟨id, handle, before, rfl, hk, rfl⟩⟩ := current_yields hsound hcur
  · obtain ⟨rfl, he⟩ := hy₁
    cases he
    exact .unknown (.inr ⟨fields, hd⟩) hu
  · obtain ⟨outcome, after, hs, hc⟩ := submit_yields hk.found hy₁
    rw [hf] at hs
    have ht := Login.deviceTurn_of_yields hs
    rw [List.nil_append]
    cases hc with
    | nextStep => cases ht
    | completed => exact .authenticated hd hk ht
    | failed => exact .rejected hd hk ht

theorem challenge_yields (hsound : s.sessions.Sound) (hd : a.demand = .challenge)
    (hy : (s.challenge a).Yields h (r, s')) : Served configuration s a h r s' := by
  unfold Service.challenge at hy
  obtain ⟨⟨found, s₁⟩, h₁, h₂, rfl, hcur, hy₁⟩ := Program.yields_bind.1 hy
  obtain ⟨rfl, ⟨rfl, t, hu, rfl⟩ | ⟨id, handle, session, rfl, hk, rfl⟩⟩ := current_yields hsound hcur
  · obtain ⟨rfl, he⟩ := hy₁
    cases he
    exact .unknown (.inl hd) hu
  · simp only [Option.bind_some, hk.found] at hy₁
    cases haw : Service.awaitsDevice session with
    | true =>
      rw [haw] at hy₁
      obtain ⟨rfl, he⟩ := hy₁
      cases he
      exact .shown hd hk haw
    | false =>
      rw [haw] at hy₁
      obtain ⟨rfl, he⟩ := hy₁
      cases he
      exact .mistimed hd hk haw

theorem logout_yields {fields : List (String × String)} (hf : s.flow = deviceFlow configuration)
    (hd : a.demand = .logout) (hy : (s.logout a fields).Yields h (r, s')) :
    Served configuration s a h r s' := by
  unfold Service.logout at hy
  rw [Service.forgetPrevious_eq] at hy
  extract_lets left leave at hy
  -- That a session was removed is only a log record.
  have hleave : (leave ()).Yields h (r, s') := by
    split at hy
    · exact hy
    · exact hy
  obtain ⟨accepted, h₁, h₂, rfl, hl, rfl, he⟩ := Program.yields_bind.1 hleave
  have hl : ((deviceFlow configuration).logout _).Yields h₁ accepted := hf ▸ hl
  obtain ⟨rfl, rfl⟩ := hl
  obtain ⟨rfl, rfl⟩ := Prod.mk.inj he
  exact .loggedOut hd

/-- A request has no other ends. -/
theorem serve_yields (hf : s.flow = deviceFlow configuration) (hsound : s.sessions.Sound)
    (hy : (s.serve a).Yields h (r, s')) : Served configuration s a h r s' := by
  unfold Service.serve at hy
  cases hroute : a.request.route? with
  | none =>
    rw [hroute] at hy
    obtain ⟨rfl, he⟩ := hy
    cases he
    exact .offhand (by simp [Arrival.demand, hroute]) .notFound
  | some route =>
    rw [hroute] at hy
    cases route with
    | health =>
      obtain ⟨rfl, he⟩ := hy
      cases he
      exact .offhand (by simp [Arrival.demand, hroute]) .health
    | challenge => exact challenge_yields hsound (by simp [Arrival.demand, hroute]) hy
    | logout => exact logout_yields hf (by simp [Arrival.demand, hroute]) hy
    | login =>
      simp only [Service.withForm] at hy
      cases hform : a.request.form with
      | error fault =>
        rw [hform] at hy
        obtain ⟨rfl, he⟩ := hy
        cases he
        exact .offhand (by simp [Arrival.demand, hroute, hform]) (.refusedForm fault)
      | ok fields =>
        rw [hform] at hy
        exact login_yields hf (by simp [Arrival.demand, hroute, hform]) hy
    | device =>
      simp only [Service.withForm] at hy
      cases hform : a.request.form with
      | error fault =>
        rw [hform] at hy
        obtain ⟨rfl, he⟩ := hy
        cases he
        exact .offhand (by simp [Arrival.demand, hroute, hform]) (.refusedForm fault)
      | ok fields =>
        rw [hform] at hy
        exact device_yields hf hsound (by simp [Arrival.demand, hroute, hform]) hy

end TwoStepLogin.Host
