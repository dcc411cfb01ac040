import TwoStepLogin.Host.Startup
import TwoStepLogin.Proofs.Host.CheckedAges
import TwoStepLogin.Proofs.Login.DeviceFlow
import TwoStepLogin.Proofs.Settings.Overrides

/-!
# How long sessions may be kept

Any number of minutes of 64 bits can be set as the age that a login may reach, and no number is refused.
It is turned into two lengths of time: the age, of which milliseconds are counted in 64 bits, and the
lifetime of the cookie, of which seconds are. Where the age does not fit, the host is aborted when it
starts; the lifetime always fits where the age does, and with an age that fits nothing aborts later.

* `Host.SessionTable.ofMinutes?_eq_none_iff`, `Host.CookieJar.ofMinutes?_eq_none_iff` — the two limits;
* `Settings.exists_load_eq` — every number of minutes can be set;
* `Host.Service.Keeps` — what a host does that has started;
* `Host.overlong_timeouts_abort_start` — which numbers abort it, and that all others let it run.
-/

set_option autoImplicit false

namespace TwoStepLogin

/-- The least number of minutes whose milliseconds do not fit is the one after the limit. -/
theorem Span.isDuration_ofMinutes_iff (minutes : Int) :
    (Span.ofMinutes minutes).IsDuration ↔ minutes.natAbs ≤ 153722867280912 := by
  simp only [Span.IsDuration, Span.ofMinutes]
  omega

namespace Settings

/-- Every number of minutes can be set. -/
theorem exists_load_eq (minutes : Int64) : ∃ environment s,
    (load (.ofFiles []) environment).outcome = .ok s ∧ s.logins.loginTimeoutMinutes = minutes := by
  obtain ⟨cs, hcs⟩ := Decimal.exists_signed minutes.toInt
  have hread : Decimal.int64? (String.ofList cs) = some minutes := by
    rw [Decimal.int64?_eq_some_iff, String.toList_ofList]
    exact hcs
  refine ⟨⟨[("LOGIN_TIMEOUT_MINUTES", String.ofList cs)]⟩, _, rfl, ?_⟩
  simp [withEnvironment, override, Attributes.get?, hread]

end Settings

namespace Host

variable {secure : Bool} {minutes : Int64}

/-! ## The two limits -/

namespace SessionTable

theorem ofMinutes?_eq_some (h : minutes.toInt.natAbs ≤ 153722867280912) :
    ofMinutes? minutes = some (.empty (.ofMinutes minutes.toInt)) := if_pos h

theorem ofMinutes?_eq_none_iff :
    ofMinutes? minutes = none ↔ 153722867280912 < minutes.toInt.natAbs := by
  simp only [ofMinutes?, ite_eq_right_iff, reduceCtorEq, imp_false]
  exact Nat.not_le

end SessionTable

namespace CookieJar

theorem isLifetime_iff (minutes : Int) : isLifetime (minutes * 60) = true ↔
    minutes.natAbs ≤ 153722867280912930 := by
  simp only [isLifetime, Bool.and_eq_true, decide_eq_true_eq]
  omega

theorem ofMinutes?_eq_some (h : minutes.toInt.natAbs ≤ 153722867280912930) :
    ofMinutes? secure minutes = some ⟨secure, minutes.toInt * 60⟩ :=
  if_pos ((isLifetime_iff _).2 h)

theorem ofMinutes?_eq_none_iff :
    ofMinutes? secure minutes = none ↔ 153722867280912930 < minutes.toInt.natAbs := by
  simp only [ofMinutes?, ite_eq_right_iff, reduceCtorEq, imp_false, isLifetime_iff]
  exact Nat.not_le

end CookieJar

/-! ## Hosts -/

variable {I : Interface}

/-- What a host does that keeps sessions for some minutes: its cookies live as long, their age is a
length of time, and no access to them aborts while the clock shows dates. -/
structure Service.Keeps (service : Service I) (secure : Bool) (minutes : Int64) : Prop where
  cookie : ∀ id, service.jar.session id = ⟨id, .lax, secure, minutes.toInt * 60⟩
  sessions : service.sessions = .empty (.ofMinutes minutes.toInt)
  timeout : service.sessions.timeout.IsDuration
  accesses : ∀ {σ : Type} (r : Responder I σ) (w : σ) (accesses : List Access),
    (∀ a ∈ accesses, a.IsDated) → play? Access.act? r accesses service.sessions w =
      some (play Access.act r accesses service.sessions w)

/-- A host keeps sessions for a number of minutes that fits. -/
theorem exists_service_keeps {s : Settings} (flow : Login.Flow I)
    (h : s.logins.loginTimeoutMinutes.toInt.natAbs ≤ 153722867280912) :
    ∃ service, Startup.withoutSessions s flow = .ok service ∧
      service.Keeps s.logins.cookieSecure s.logins.loginTimeoutMinutes := by
  refine ⟨⟨flow, .empty (.ofMinutes s.logins.loginTimeoutMinutes.toInt), s.logins.cookieSecure,
    s.logins.loginTimeoutMinutes.toInt * 60⟩, ?_, ?_⟩
  · rw [Startup.withoutSessions, SessionTable.ofMinutes?_eq_some h,
      CookieJar.ofMinutes?_eq_some (h.trans (by decide))]
  · exact {
      cookie := fun _ => rfl
      sessions := rfl
      timeout := (Span.isDuration_ofMinutes_iff _).2 h
      accesses := fun r w _ hdated => Access.play?_empty hdated _ r w }

/-- Every number of minutes can be set. No cookie is made where the seconds do not fit 64 bits. A host is
aborted when it starts just where the milliseconds do not, which happens a thousand times earlier; with
any other number of minutes it keeps sessions. -/
theorem overlong_timeouts_abort_start (I : Interface) :
    (∀ minutes : Int64, ∃ environment s,
      (Settings.load (.ofFiles []) environment).outcome = .ok s ∧
        s.logins.loginTimeoutMinutes = minutes) ∧
    (∀ (secure : Bool) (minutes : Int64), CookieJar.ofMinutes? secure minutes = none ↔
      153722867280912930 < minutes.toInt.natAbs) ∧
    ∀ (s : Settings) (flow : Login.Flow I),
      (153722867280912 < s.logins.loginTimeoutMinutes.toInt.natAbs ∧
        SessionTable.ofMinutes? s.logins.loginTimeoutMinutes = none ∧
        Startup.withoutSessions s flow = .error .timeout) ∨
      (s.logins.loginTimeoutMinutes.toInt.natAbs ≤ 153722867280912 ∧
        ∃ service, Startup.withoutSessions s flow = .ok service ∧
          service.Keeps s.logins.cookieSecure s.logins.loginTimeoutMinutes) := by
  refine ⟨Settings.exists_load_eq, fun _ _ => CookieJar.ofMinutes?_eq_none_iff, fun s flow => ?_⟩
  rcases Nat.lt_or_ge 153722867280912 s.logins.loginTimeoutMinutes.toInt.natAbs with hlong | hfits
  · have hnone := SessionTable.ofMinutes?_eq_none_iff.2 hlong
    exact .inl ⟨hlong, hnone, by rw [Startup.withoutSessions, hnone]⟩
  · exact .inr ⟨hfits, exists_service_keeps flow hfits⟩

/-- Settings with the longest age that fits. -/
def longestTimeout : Settings := { Settings.defaults with logins := ⟨true, 153722867280912⟩ }

/-- With this age a session can be made and, many years later, be looked for. -/
theorem longest_timeout_keeps_sessions : ∃ service,
    Startup.withoutSessions longestTimeout (Login.deviceFlow Login.obligingConfiguration) =
        .ok service ∧
      ∃ turns, play? Access.act? Login.obliging
        [.create "first" ⟨0⟩ ⟨0⟩, .find "first" ⟨2 ^ 42 * 10 ^ 9⟩] service.sessions () = some turns := by
  obtain ⟨-, -, hhost⟩ := overlong_timeouts_abort_start Login.surroundings
  rcases hhost longestTimeout (Login.deviceFlow Login.obligingConfiguration) with
    ⟨hlong, -⟩ | ⟨-, service, hservice, hkeeps⟩
  · exact absurd hlong (by decide)
  · exact ⟨service, hservice, _, hkeeps.accesses Login.obliging () _ (by decide)⟩

/-- The variable for the age with the number after the limit. -/
def overlongTimeout : Settings.Environment := ⟨[("LOGIN_TIMEOUT_MINUTES", "153722867280913")]⟩

/-- The settings are loaded, but no table of sessions can be made of them. -/
theorem overlong_timeout_is_set : ∃ s,
    (Settings.load (.ofFiles []) overlongTimeout).outcome = .ok s ∧
      SessionTable.ofMinutes? s.logins.loginTimeoutMinutes = none := by
  refine ⟨{ Settings.defaults with logins := ⟨true, 153722867280913⟩ }, ?_, ?_⟩
  · decide +kernel
  · decide +kernel

end Host

end TwoStepLogin
