import TwoStepLogin.Proofs.Login.FlowSteps

/-!
# Arbitrary methods

A flow knows nothing of its method but the answers to its calls. If every call is put as a question,
a method is whoever answers these questions, from a state of its own.

* `Login.Consultation`, `Login.calls` — the calls of a method as an interface;
* `Login.consulting` — the method that puts every call as a question;
* `Login.Method.responder` — a given method in given surroundings, as someone who answers;
* `Login.run_submit_consulting`, `Login.play_consulting` — a flow cannot tell the difference.
-/

set_option autoImplicit false

namespace TwoStepLogin.Login

/-- A call of a method. -/
inductive Consultation where
  | isValid (configuration : Configuration)
  | alternative (configuration : Configuration)
  | prepare (configuration : Configuration) (parameters : Parameters) (session : Session)
      (step : UInt32)
  | authenticate (configuration : Configuration) (credentials : Credentials)
      (parameters : Parameters) (session : Session) (step : UInt32)
  | extraParameters (configuration : Configuration) (step : UInt32)
  | stepCount (configuration : Configuration)
  | page (configuration : Configuration) (step : UInt32)
  | logout (configuration : Configuration) (parameters : Parameters)
  | destroy (configuration : Configuration)

/-- The type of the answers. -/
def Consultation.Answer : Consultation → Type
  | .isValid _ => Bool
  | .alternative _ => Option String
  | .prepare .. => Bool × Session
  | .authenticate .. => Bool × Session
  | .extraParameters .. => Option (List String)
  | .stepCount _ => UInt32
  | .page .. => String
  | .logout .. => Bool
  | .destroy _ => Bool

/-- The calls of a method as an interface. -/
abbrev calls : Interface := ⟨Consultation, Consultation.Answer⟩

/-- The method that puts every call as a question. -/
def consulting : Method calls where
  isValid configuration := Program.query (I := calls) (.isValid configuration)
  alternative configuration := Program.query (I := calls) (.alternative configuration)
  prepare configuration p s step := Program.query (I := calls) (.prepare configuration p s step)
  authenticate configuration c p s step :=
    Program.query (I := calls) (.authenticate configuration c p s step)
  extraParameters configuration step :=
    Program.query (I := calls) (.extraParameters configuration step)
  stepCount configuration := Program.query (I := calls) (.stepCount configuration)
  page configuration step := Program.query (I := calls) (.page configuration step)
  logout configuration p := Program.query (I := calls) (.logout configuration p)
  destroy configuration := Program.query (I := calls) (.destroy configuration)

variable {I : Interface} {σ α β : Type}

namespace Method

/-- The program behind a call. -/
def answer (m : Method I) : (call : Consultation) → Program I call.Answer
  | .isValid configuration => m.isValid configuration
  | .alternative configuration => m.alternative configuration
  | .prepare configuration p s step => m.prepare configuration p s step
  | .authenticate configuration c p s step => m.authenticate configuration c p s step
  | .extraParameters configuration step => m.extraParameters configuration step
  | .stepCount configuration => m.stepCount configuration
  | .page configuration step => m.page configuration step
  | .logout configuration p => m.logout configuration p
  | .destroy configuration => m.destroy configuration

/-- A method in given surroundings answers the calls. -/
def responder (m : Method I) (r : Responder I σ) : Responder calls σ where
  respond call w := (((m.answer call).run r w).value, ((m.answer call).run r w).state)

/-- Carry out every call that a program puts. -/
def carryOut (m : Method I) : Program calls α → Program I α
  | .done a => .done a
  | .note r p => .note r (m.carryOut p)
  | .ask call k => (m.answer call).andThen fun a => m.carryOut (k a)

theorem carryOut_bind (m : Method I) (p : Program calls α) (f : α → Program calls β) :
    m.carryOut (p >>= f) = (m.carryOut p >>= fun a => m.carryOut (f a)) := by
  induction p with
  | done a => rfl
  | note r p ih => simp [carryOut, ih]
  | ask call k ih =>
    have hk : (fun a => m.carryOut (k a >>= f)) =
        fun a => m.carryOut (k a) >>= fun b => m.carryOut (f b) := funext ih
    show (m.answer call >>= fun a => m.carryOut (k a >>= f)) = _
    rw [hk]
    exact (Program.bind_assoc' (m.answer call) _ _).symm

theorem carryOut_query (m : Method I) (call : Consultation) :
    m.carryOut (Program.query (I := calls) call) = m.answer call :=
  Program.bind_done (m.answer call)

/-- Carrying out the calls of a program is the same as running it against the method. -/
theorem run_carryOut (m : Method I) (r : Responder I σ) (p : Program calls α) (w : σ) :
    ((m.carryOut p).run r w).value = (p.run (m.responder r) w).value ∧
      ((m.carryOut p).run r w).state = (p.run (m.responder r) w).state := by
  induction p generalizing w with
  | done a => exact ⟨rfl, rfl⟩
  | note e p ih => exact ih w
  | ask call k ih =>
    have hb := Program.run_bind r (m.answer call) (fun a => m.carryOut (k a)) w
    have hi := ih ((m.answer call).run r w).value ((m.answer call).run r w).state
    constructor
    · exact (congrArg Outcome.value hb).trans hi.1
    · exact (congrArg Outcome.state hb).trans hi.2

end Method

/-! ## A flow over an arbitrary method -/

theorem carryOut_bind_congr {m : Method I} {p : Program calls α} {f : α → Program calls β}
    {p' : Program I α} {f' : α → Program I β} (hp : m.carryOut p = p')
    (hf : ∀ a, m.carryOut (f a) = f' a) : m.carryOut (p >>= f) = (p' >>= f') := by
  rw [Method.carryOut_bind, hp, show (fun a => m.carryOut (f a)) = f' from funext hf]

theorem carryOut_advance (m : Method I) (configuration : Configuration) (p : Parameters)
    (s : Session) (finished : UInt32) :
    m.carryOut ((Flow.mk consulting configuration).advance p s finished) =
      (Flow.mk m configuration).advance p s finished := by
  unfold Flow.advance
  refine carryOut_bind_congr (m.carryOut_query (.stepCount configuration)) fun count => ?_
  refine carryOut_bind_congr (m.carryOut_query (.extraParameters configuration _)) fun extra => ?_
  extract_lets goOn goOn'
  have hgo : m.carryOut (goOn ()) = goOn' () := by
    refine carryOut_bind_congr (m.carryOut_query (.prepare configuration p s (finished + 1))) ?_
    rintro ⟨prepared, s₁⟩
    by_cases hcount : count ≤ finished
    · simp only [if_pos hcount]
      cases prepared with
      | true => rfl
      | false => rfl
    · simp only [if_neg hcount]
      cases prepared with
      | true =>
        exact carryOut_bind_congr (m.carryOut_query (.page configuration _)) fun page => rfl
      | false => rfl
  cases extra with
  | none => exact hgo
  | some names => exact congrArg (Program.note _) hgo

theorem carryOut_submitCredentials (m : Method I) (configuration : Configuration)
    (c : Credentials) (p : Parameters) (s : Session) :
    m.carryOut ((Flow.mk consulting configuration).submitCredentials c p s) =
      (Flow.mk m configuration).submitCredentials c p s := by
  unfold Flow.submitCredentials
  split
  · refine carryOut_bind_congr (m.carryOut_query (.isValid configuration)) ?_
    intro valid
    cases valid with
    | false =>
      exact carryOut_bind_congr (m.carryOut_query (.alternative configuration)) fun a => rfl
    | true =>
      refine carryOut_bind_congr
        (m.carryOut_query (.prepare configuration p s passwordStep)) ?_
      rintro ⟨prepared, s₁⟩
      cases prepared with
      | false => rfl
      | true =>
        refine carryOut_bind_congr
          (m.carryOut_query (.authenticate configuration c p s₁ passwordStep)) ?_
        rintro ⟨accepted, s₂⟩
        cases accepted with
        | false => rfl
        | true => exact carryOut_advance m configuration p s₂ passwordStep
  · rfl

theorem carryOut_submitToken (m : Method I) (configuration : Configuration) (p : Parameters)
    (s : Session) :
    m.carryOut ((Flow.mk consulting configuration).submitToken p s) =
      (Flow.mk m configuration).submitToken p s := by
  unfold Flow.submitToken
  split
  · refine carryOut_bind_congr
      (m.carryOut_query (.authenticate configuration .blank p s deviceStep)) ?_
    rintro ⟨accepted, s₁⟩
    cases accepted with
    | false => rfl
    | true => exact carryOut_advance m configuration p s₁ deviceStep
  · rfl

/-- A flow cannot tell a method from someone who answers its calls. -/
theorem run_submit_consulting (m : Method I) (r : Responder I σ) (configuration : Configuration)
    (submission : Submission) (s : Session) (w : σ) :
    let direct := ((Flow.mk m configuration).submit submission s).run r w
    let asked := ((Flow.mk consulting configuration).submit submission s).run (m.responder r) w
    direct.value = asked.value ∧ direct.state = asked.state := by
  have he : (Flow.mk m configuration).submit submission s =
      m.carryOut ((Flow.mk consulting configuration).submit submission s) := by
    cases submission with
    | credentials c p => exact (carryOut_submitCredentials m configuration c p s).symm
    | token p => exact (carryOut_submitToken m configuration p s).symm
  rw [he]
  exact m.run_carryOut r _ w

/-- Nor can it tell in the course of many submissions. -/
theorem play_consulting (m : Method I) (r : Responder I σ) (configuration : Configuration)
    (submissions : List Submission) (s : Session) (w : σ) :
    (play (Flow.mk m configuration).submit r submissions s w).map Turn.outline =
      (play (Flow.mk consulting configuration).submit (m.responder r) submissions s w).map
        Turn.outline := by
  induction submissions generalizing s w with
  | nil => rfl
  | cons submission rest ih =>
    obtain ⟨hvalue, hstate⟩ := run_submit_consulting m r configuration submission s w
    simp only [play, List.map_cons, Turn.outline]
    rw [hvalue, hstate]
    exact congrArg _ (ih _ _)

end TwoStepLogin.Login
