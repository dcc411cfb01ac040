import Mathlib.Data.List.Forall2
import TwoStepLogin.Proofs.Host.SessionIds

/-!
# Fields that no page looks at

Browsers may send whatever fields they like. A page looks at the first values of the few fields that it
knows, and of two sequences of requests that agree in these nobody can tell which one was served.

The forms are handed through the flow to every step of the method, so this has to be seen step by
step: each computes the same program from both forms. Equal programs have equal runs, whoever answers
their questions.

* `Host.Route.fieldsRead` — the fields that a page looks at;
* `Host.Arrival.Alike` — two requests that agree in them;
* `Host.Service.serve_alike` — one request;
* `Host.extra_fields_change_nothing` — all requests.
-/

set_option autoImplicit false

namespace TwoStepLogin

/-- A program that only goes on where the other does goes on in the same way. -/
theorem Program.bind_congr_yields {I : Interface} {α β : Type} {p : Program I α}
    {f g : α → Program I β} (h : ∀ exchanges a, p.Yields exchanges a → f a = g a) :
    (p >>= f) = (p >>= g) := by
  induction p with
  | done a => exact h [] a ⟨rfl, rfl⟩
  | note entry p ih => exact congrArg (Program.note entry) (ih h)
  | ask question next ih =>
    refine congrArg (Program.ask question) (funext fun answer => ?_)
    exact ih answer fun exchanges a hy => h _ a ⟨answer, exchanges, rfl, hy⟩

/-- The same fields are filled in with the same first values. -/
def Parameters.AgreeOn (names : List String) (p p' : Parameters) : Prop :=
  ∀ name ∈ names, p.firstValue? name = p'.firstValue? name

namespace Login

variable {configuration : Configuration} {p p' : Parameters}

/-- The fields of the device step. -/
def deviceFields : List String := [DeviceMethod.tokenField, DeviceMethod.workflowField]

/-- The device step looks at its own fields. -/
theorem checkDevice_alike (h : p.AgreeOn deviceFields p') (s : Session) :
    DeviceMethod.checkDevice configuration p s = DeviceMethod.checkDevice configuration p' s := by
  have htoken : p.firstValue? DeviceMethod.tokenField = p'.firstValue? DeviceMethod.tokenField :=
    h _ List.mem_cons_self
  have hworkflow :
      p.firstValue? DeviceMethod.workflowField = p'.firstValue? DeviceMethod.workflowField :=
    h _ (List.mem_cons_of_mem _ List.mem_cons_self)
  rw [DeviceMethod.checkDevice, DeviceMethod.checkDevice, htoken, hworkflow]

/-- What follows an accepted step does not look at the form of that step. -/
theorem advance_alike (p p' : Parameters) (s : Session) (step : UInt32) :
    (deviceFlow configuration).advance p s step = (deviceFlow configuration).advance p' s step :=
  rfl

/-- Nor does the password step, once user name and password are known. -/
theorem submitCredentials_alike (c : Credentials) (p p' : Parameters) (s : Session) :
    (deviceFlow configuration).submitCredentials c p s =
      (deviceFlow configuration).submitCredentials c p' s :=
  rfl

theorem submitToken_alike (h : p.AgreeOn deviceFields p') (s : Session) :
    (deviceFlow configuration).submitToken p s = (deviceFlow configuration).submitToken p' s := by
  have hcheck : deviceMethod.authenticate configuration .blank p s deviceStep =
      deviceMethod.authenticate configuration .blank p' s deviceStep :=
    checkDevice_alike h s
  simp only [Flow.submitToken, hcheck, advance_alike p p']

end Login

namespace Host

open Login (surroundings deviceFlow)

/-- The fields that a page looks at. -/
def Route.fieldsRead : Route → List String
  | .login => ["username", "password"]
  | .device => Login.deviceFields
  | .challenge | .logout | .health => []

/-- Two forms that are accepted and agree in the fields that are looked at. -/
def FormsAgree (names : List String) (r r' : Request) : Prop :=
  ∃ fields fields', r.form = .ok fields ∧ r'.form = .ok fields' ∧
    (Parameters.ofPairs fields).AgreeOn names (.ofPairs fields')

/-- Two requests for one page, at the same time and with the same session, that agree in the fields
which the page looks at. -/
structure Arrival.Alike (a a' : Arrival) : Prop where
  freshId_eq : a.freshId = a'.freshId
  created_eq : a.created = a'.created
  now_eq : a.now = a'.now
  route_eq : a.request.route? = a'.request.route?
  sessionId_eq : a.request.sessionId? = a'.request.sessionId?
  forms : ∀ page, a.request.route? = some page → page.fieldsRead ≠ [] →
    FormsAgree page.fieldsRead a.request a'.request

namespace Service

variable {configuration : Login.Configuration} {s : Service surroundings} {a a' : Arrival}

/-! ## One request -/

theorem forgetPrevious_alike (h : a.Alike a') (s : Service surroundings) :
    s.forgetPrevious a = s.forgetPrevious a' := by
  rw [forgetPrevious, forgetPrevious, h.sessionId_eq]

theorem current_alike (h : a.Alike a') (s : Service surroundings) : s.current a = s.current a' := by
  rw [current, current, h.sessionId_eq, h.now_eq]

theorem challenge_alike (h : a.Alike a') (s : Service surroundings) :
    s.challenge a = s.challenge a' := by
  rw [challenge, challenge, current_alike h]

theorem credentials_alike {p p' : Parameters} (h : p.AgreeOn Route.login.fieldsRead p') :
    credentials p = credentials p' := by
  have hname : p.firstValue? "username" = p'.firstValue? "username" := h _ List.mem_cons_self
  have hpassword : p.firstValue? "password" = p'.firstValue? "password" :=
    h _ (List.mem_cons_of_mem _ List.mem_cons_self)
  rw [credentials, credentials, hname, hpassword]

theorem login_alike {fields fields' : List (String × String)} (h : a.Alike a')
    (hflow : s.flow = deviceFlow configuration)
    (hf : (Parameters.ofPairs fields).AgreeOn Route.login.fieldsRead (.ofPairs fields')) :
    s.login a fields = s.login a' fields' := by
  have hprevious : (s.forgetPrevious a').flow = deviceFlow configuration := by
    rw [forgetPrevious_eq]
    exact hflow
  have hsubmit (session : Session) :
      (s.forgetPrevious a').flow.submitCredentials (credentials (.ofPairs fields'))
        (.ofPairs fields) session =
      (s.forgetPrevious a').flow.submitCredentials (credentials (.ofPairs fields'))
        (.ofPairs fields') session := by
    rw [hprevious]
    exact Login.submitCredentials_alike _ _ _ session
  simp only [login, forgetPrevious_alike h, h.freshId_eq, h.created_eq, h.now_eq,
    credentials_alike hf]
  rw [funext hsubmit]

/-- Looking for a session leaves the flow as it is. -/
theorem flow_of_current {h : List (Exchange surroundings)} {found : Option (String × Handle)}
    {s' : Service surroundings} (hy : (s.current a).Yields h (found, s')) : s'.flow = s.flow := by
  rw [current] at hy
  split at hy
  · obtain ⟨-, he⟩ := hy
    cases he
    rfl
  · obtain ⟨⟨_, t⟩, _, _, -, -, -, he⟩ := Program.yields_bind.1 hy
    cases he
    rfl

theorem device_alike {fields fields' : List (String × String)} (h : a.Alike a')
    (hflow : s.flow = deviceFlow configuration)
    (hf : (Parameters.ofPairs fields).AgreeOn Login.deviceFields (.ofPairs fields')) :
    s.device a fields = s.device a' fields' := by
  rw [device, device, current_alike h]
  refine Program.bind_congr_yields fun _ found hy => ?_
  obtain ⟨login, s'⟩ := found
  have hflow' : s'.flow = deviceFlow configuration := (flow_of_current hy).trans hflow
  cases login with
  | none => rfl
  | some login =>
    have hsubmit (session : Session) : s'.flow.submitToken (.ofPairs fields) session =
        s'.flow.submitToken (.ofPairs fields') session := by
      rw [hflow']
      exact Login.submitToken_alike hf session
    show s'.submit login.1 login.2 _ = s'.submit login.1 login.2 _
    rw [funext hsubmit]

/-- The method does not look at the form of a user who leaves. -/
theorem logout_alike (h : a.Alike a') (hflow : s.flow = deviceFlow configuration)
    (fields fields' : List (String × String)) : s.logout a fields = s.logout a' fields' := by
  have hleave (p : Parameters) : (s.forgetPrevious a').flow.logout p = .done true := by
    rw [forgetPrevious_eq]
    show s.flow.logout p = .done true
    rw [hflow]
    rfl
  simp only [logout, forgetPrevious_alike h, h.sessionId_eq, hleave]

/-- A host makes the same of both requests. -/
theorem serve_alike (h : a.Alike a') (hflow : s.flow = deviceFlow configuration) :
    s.serve a = s.serve a' := by
  rw [serve, serve, ← h.route_eq]
  cases hroute : a.request.route? with
  | none => rfl
  | some page =>
    cases page with
    | health => rfl
    | challenge => exact challenge_alike h s
    | logout => exact logout_alike h hflow _ _
    | login =>
      obtain ⟨fields, fields', hform, hform', hf⟩ := h.forms _ hroute (List.cons_ne_nil _ _)
      simp only [withForm, hform, hform']
      exact login_alike h hflow hf
    | device =>
      obtain ⟨fields, fields', hform, hform', hf⟩ := h.forms _ hroute (List.cons_ne_nil _ _)
      simp only [withForm, hform, hform']
      exact device_alike h hflow hf

/-! ## All requests -/

theorem flow_of_submit {id : String} {handle : Handle} {h : List (Exchange surroundings)}
    {submission : Session → Login.Action (Login.StepOutcome × Session)} {r : Response}
    {s' : Service surroundings} (hy : (s.submit id handle submission).Yields h (r, s')) :
    s'.flow = s.flow := by
  cases hs : s.sessions.session? handle with
  | none =>
    rw [submit, hs] at hy
    obtain ⟨-, he⟩ := hy
    cases he
    rfl
  | some session =>
    obtain ⟨_, after, -, hc⟩ := submit_yields hs hy
    cases hc <;> rfl

theorem flow_of_challenge {h : List (Exchange surroundings)} {r : Response}
    {s' : Service surroundings} (hy : (s.challenge a).Yields h (r, s')) : s'.flow = s.flow := by
  obtain ⟨⟨found, s₁⟩, _, _, -, hcurrent, hy⟩ := Program.yields_bind.1 hy
  have hflow := flow_of_current hcurrent
  dsimp only at hy
  split at hy
  · obtain ⟨-, he⟩ := hy
    cases he
    exact hflow
  · split at hy
    all_goals
      obtain ⟨-, he⟩ := hy
      cases he
      exact hflow

theorem flow_of_login {fields : List (String × String)} {h : List (Exchange surroundings)}
    {r : Response} {s' : Service surroundings} (hy : (s.login a fields).Yields h (r, s')) :
    s'.flow = s.flow := by
  rw [login, forgetPrevious_eq] at hy
  obtain ⟨⟨handle, t⟩, _, _, -, -, hsubmit⟩ := Program.yields_bind.1 hy
  have hflow := flow_of_submit (s := (s.withSessions (s.others a)).withSessions t) hsubmit
  exact hflow

theorem flow_of_device {fields : List (String × String)} {h : List (Exchange surroundings)}
    {r : Response} {s' : Service surroundings} (hy : (s.device a fields).Yields h (r, s')) :
    s'.flow = s.flow := by
  obtain ⟨⟨found, s₁⟩, _, _, -, hcurrent, hy⟩ := Program.yields_bind.1 hy
  have hflow := flow_of_current hcurrent
  cases found with
  | none =>
    obtain ⟨-, he⟩ := hy
    cases he
    exact hflow
  | some login => exact (flow_of_submit hy).trans hflow

theorem flow_of_logout {fields : List (String × String)} {h : List (Exchange surroundings)}
    {r : Response} {s' : Service surroundings} (hy : (s.logout a fields).Yields h (r, s')) :
    s'.flow = s.flow := by
  unfold logout at hy
  rw [forgetPrevious_eq] at hy
  extract_lets left leave at hy
  have hleave : (leave ()).Yields h (r, s') := by
    split at hy
    · exact hy
    · exact hy
  obtain ⟨accepted, _, _, -, -, -, he⟩ := Program.yields_bind.1 hleave
  obtain ⟨-, rfl⟩ := Prod.mk.inj he
  rfl

/-- Whatever is asked of a host, it keeps its flow. -/
theorem flow_of_serve {h : List (Exchange surroundings)} {r : Response} {s' : Service surroundings}
    (hy : (s.serve a).Yields h (r, s')) : s'.flow = s.flow := by
  have hform {page : List (String × String) → Login.Action (Response × Service surroundings)}
      (hpage : ∀ fields, (page fields).Yields h (r, s') → s'.flow = s.flow)
      (hy : (s.withForm a page).Yields h (r, s')) : s'.flow = s.flow := by
    rw [withForm] at hy
    split at hy
    · obtain ⟨-, he⟩ := hy
      cases he
      rfl
    · exact hpage _ hy
  rw [serve] at hy
  split at hy
  · obtain ⟨-, he⟩ := hy
    cases he
    rfl
  · obtain ⟨-, he⟩ := hy
    cases he
    rfl
  · exact flow_of_challenge hy
  · exact hform (fun _ => flow_of_login) hy
  · exact hform (fun _ => flow_of_device) hy
  · exact flow_of_logout hy

/-- A host makes the same of both sequences of requests. -/
theorem serveAll_alike {arrivals arrivals' : List Arrival}
    (h : List.Forall₂ Arrival.Alike arrivals arrivals')
    (hflow : s.flow = deviceFlow configuration) : s.serveAll arrivals = s.serveAll arrivals' := by
  induction h generalizing s with
  | nil => rfl
  | cons ha _ ih =>
    rw [serveAll, serveAll, serve_alike ha hflow]
    refine Program.bind_congr_yields fun _ served hy => ?_
    obtain ⟨response, s'⟩ := served
    have hrest := ih ((flow_of_serve hy).trans hflow)
    simp only [hrest]

end Service

/-- Two sequences of requests that agree in the fields which the pages look at. After every request
there have been the same responses, the same questions to directory and server with the same
answers, and the same records; and the sessions, the directory and the server are the same. -/
theorem extra_fields_change_nothing {σ : Type} {configuration : Login.Configuration}
    {s : Service surroundings} (hflow : s.flow = deviceFlow configuration)
    {arrivals arrivals' : List Arrival} (h : List.Forall₂ Arrival.Alike arrivals arrivals')
    (others : Responder surroundings σ) (w : σ) (served : Nat) :
    (s.serveAll (arrivals.take served)).run others w =
      (s.serveAll (arrivals'.take served)).run others w := by
  rw [Service.serveAll_alike (List.forall₂_take served h) hflow]

/-- The requests of `enrollmentArrivals` with other fields around those that are looked at. -/
def clutteredArrivals : List Arrival :=
  [⟨formRequest "/auth/login" [] "role=admin&password=secret&username=alice&username=bob", "first",
      ⟨0⟩, ⟨0⟩⟩,
    ⟨formRequest "/auth/u2f/login" ["u2f_session=first"]
        "authMethod=enroll&tokenResponse=signed&username=bob&authMethod=authenticate",
      "second", ⟨1⟩, ⟨1⟩⟩]

/-- Page and session of a request do not depend on its form. -/
theorem formRequest_alike (target : String) (cookies : List String) (form form' : String) :
    (formRequest target cookies form).route? = (formRequest target cookies form').route? ∧
      (formRequest target cookies form).sessionId? = (formRequest target cookies form').sessionId? :=
  ⟨rfl, rfl⟩

theorem enrollmentArrivals_alike :
    List.Forall₂ Arrival.Alike enrollmentArrivals clutteredArrivals := by
  have hpage := formRequest_alike
  refine .cons ⟨rfl, rfl, rfl, (hpage _ _ _ _).1, (hpage _ _ _ _).2, ?_⟩
    (.cons ⟨rfl, rfl, rfl, (hpage _ _ _ _).1, (hpage _ _ _ _).2, ?_⟩ .nil)
  · intro page hpage _
    obtain rfl : page = .login := Option.some.inj (hpage.symm.trans (by decide +kernel))
    refine ⟨[("username", "alice"), ("password", "secret")], [("role", "admin"),
      ("password", "secret"), ("username", "alice"), ("username", "bob")], ?_, ?_, ?_⟩
    · decide +kernel
    · decide +kernel
    · simp only [Parameters.AgreeOn, Route.fieldsRead]
      decide +kernel
  · intro page hpage _
    obtain rfl : page = .device := Option.some.inj (hpage.symm.trans (by decide +kernel))
    refine ⟨[("tokenResponse", "signed"), ("authMethod", "enroll")], [("authMethod", "enroll"),
      ("tokenResponse", "signed"), ("username", "bob"), ("authMethod", "authenticate")], ?_, ?_, ?_⟩
    · decide +kernel
    · decide +kernel
    · simp only [Parameters.AgreeOn, Route.fieldsRead, Login.deviceFields]
      decide +kernel

/-- Alice enrols her device, and nobody can tell that her browser sent other fields too. -/
theorem cluttered_enrollment_is_no_different :
    let s : Service surroundings :=
      ⟨deviceFlow Login.obligingConfiguration, .empty (.ofMinutes 10), ⟨true, 600⟩⟩
    let served (arrivals : List Arrival) := (s.serveAll arrivals).run Login.obliging ()
    served clutteredArrivals = served enrollmentArrivals ∧
      (served clutteredArrivals).value.1.getLast?.map Response.body =
        some (StepAnswer.authenticated (some "alice")).toJson.compact := by
  intro s served
  have hall : enrollmentArrivals.take 2 = enrollmentArrivals ∧
      clutteredArrivals.take 2 = clutteredArrivals := ⟨rfl, rfl⟩
  have hsame := extra_fields_change_nothing (s := s) rfl enrollmentArrivals_alike Login.obliging () 2
  rw [hall.1, hall.2] at hsame
  have hbody : (served enrollmentArrivals).value.1.getLast?.map Response.body =
      some (StepAnswer.authenticated (some "alice")).toJson.compact := by
    decide +kernel
  refine ⟨hsame.symm, ?_⟩
  show ((s.serveAll clutteredArrivals).run Login.obliging ()).value.1.getLast?.map _ = _
  rw [← hsame]
  exact hbody

end Host

end TwoStepLogin
