import TwoStepLogin.Login.Flow
import TwoStepLogin.Proofs.Effect.Play

/-!
# What a submission can do

A flow takes any method through its steps. The relations below list what may come of a submission,
in terms of what the calls of the method may yield.

* `Login.Submission`, `Login.Flow.submit` — the two submissions as one;
* `Login.Advanced` — the ends of going on after an accepted step;
* `Login.CredentialsTaken`, `Login.TokenTaken` — the ends of the two submissions.
-/

set_option autoImplicit false

namespace TwoStepLogin.Login

/-- What a browser may submit to a login. -/
inductive Submission where
  | credentials (credentials : Credentials) (parameters : Parameters)
  | token (parameters : Parameters)
  deriving DecidableEq, Repr

/-- The step that a submission is for. -/
def Submission.step : Submission → UInt32
  | .credentials _ _ => passwordStep
  | .token _ => deviceStep

/-- Submit one thing or the other. -/
def Flow.submit {I : Interface} (flow : Flow I) :
    Submission → Session → Program I (StepOutcome × Session)
  | .credentials c p, s => flow.submitCredentials c p s
  | .token p, s => flow.submitToken p s

theorem Flow.expects_eq_true_iff {s : Session} {step : UInt32} :
    Flow.expects s step = true ↔ s.completed = false ∧ s.step = step := by
  simp [Flow.expects]

theorem Flow.expects_eq_false_iff {s : Session} {step : UInt32} :
    Flow.expects s step = false ↔ s.completed = true ∨ s.step ≠ step := by
  cases hc : s.completed <;> simp [Flow.expects, hc]

variable {I : Interface} {flow : Flow I} {c : Credentials} {p : Parameters} {s s' : Session}
  {h : List (Exchange I)} {outcome : StepOutcome}

/-- The ends of going on after a step that was accepted. -/
inductive Advanced (flow : Flow I) (p : Parameters) (s : Session) (finished : UInt32) :
    List (Exchange I) → StepOutcome → Session → Prop where
  /-- It was the last step; whether the acknowledgement is prepared does not matter. -/
  | completed {h₁ h₂ h₃ : List (Exchange I)} {count : UInt32} {extra : Option (List String)}
      {prepared : Bool} {s' : Session} :
      (flow.method.stepCount flow.configuration).Yields h₁ count →
      (flow.method.extraParameters flow.configuration (finished + 1)).Yields h₂ extra →
      (flow.method.prepare flow.configuration p s (finished + 1)).Yields h₃ (prepared, s') →
      count ≤ finished →
      Advanced flow p s finished (h₁ ++ (h₂ ++ h₃)) .completed
        (s'.withStep (finished + 1)).complete
  | nextStep {h₁ h₂ h₃ h₄ : List (Exchange I)} {count : UInt32} {extra : Option (List String)}
      {s' : Session} {page : String} :
      (flow.method.stepCount flow.configuration).Yields h₁ count →
      (flow.method.extraParameters flow.configuration (finished + 1)).Yields h₂ extra →
      (flow.method.prepare flow.configuration p s (finished + 1)).Yields h₃ (true, s') →
      ¬count ≤ finished →
      (flow.method.page flow.configuration (finished + 1)).Yields h₄ page →
      Advanced flow p s finished (h₁ ++ (h₂ ++ (h₃ ++ h₄))) (.nextStep (finished + 1) page)
        (s'.withStep (finished + 1))
  | unprepared {h₁ h₂ h₃ : List (Exchange I)} {count : UInt32} {extra : Option (List String)}
      {s' : Session} :
      (flow.method.stepCount flow.configuration).Yields h₁ count →
      (flow.method.extraParameters flow.configuration (finished + 1)).Yields h₂ extra →
      (flow.method.prepare flow.configuration p s (finished + 1)).Yields h₃ (false, s') →
      ¬count ≤ finished →
      Advanced flow p s finished (h₁ ++ (h₂ ++ h₃)) (.failed (finished + 1)) s'

theorem advance_yields {finished : UInt32}
    (hy : (flow.advance p s finished).Yields h (outcome, s')) :
    Advanced flow p s finished h outcome s' := by
  unfold Flow.advance at hy
  obtain ⟨count, h₁, _, rfl, hc, hy₁⟩ := Program.yields_bind.1 hy
  obtain ⟨extra, h₂, rest, rfl, he, hy₂⟩ := Program.yields_bind.1 hy₁
  extract_lets goOn at hy₂
  -- Announcing extra parameters is only a log record.
  have hy₃ : (goOn ()).Yields rest (outcome, s') := by
    cases extra with
    | none => exact hy₂
    | some names => exact hy₂
  obtain ⟨⟨prepared, s₁⟩, h₃, h₄, rfl, hp, hy₄⟩ := Program.yields_bind.1 hy₃
  by_cases hcount : count ≤ finished
  · simp only [if_pos hcount] at hy₄
    have hend : h₄ = [] ∧ (outcome, s') = (.completed, (s₁.withStep (finished + 1)).complete) := by
      cases prepared with
      | true => exact hy₄
      | false => exact hy₄
    obtain ⟨rfl, hend⟩ := hend
    cases hend
    rw [List.append_nil]
    exact .completed hc he hp hcount
  · simp only [if_neg hcount] at hy₄
    cases prepared with
    | true =>
      obtain ⟨page, h₅, _, rfl, hpage, rfl, hend⟩ := Program.yields_bind.1 hy₄
      cases hend
      rw [List.append_nil]
      exact .nextStep hc he hp hcount hpage
    | false =>
      obtain ⟨rfl, hend⟩ := hy₄
      cases hend
      rw [List.append_nil]
      exact .unprepared hc he hp hcount

/-- The ends of submitting user name and password. -/
inductive CredentialsTaken (flow : Flow I) (c : Credentials) (p : Parameters) (s : Session) :
    List (Exchange I) → StepOutcome → Session → Prop where
  | outOfOrder : Flow.expects s passwordStep = false →
      CredentialsTaken flow c p s [] (.failed passwordStep) s
  | unavailable {h₁ h₂ : List (Exchange I)} {alternative : Option String} :
      Flow.expects s passwordStep = true →
      (flow.method.isValid flow.configuration).Yields h₁ false →
      (flow.method.alternative flow.configuration).Yields h₂ alternative →
      CredentialsTaken flow c p s (h₁ ++ h₂) (.failed passwordStep) s
  | unprepared {h₁ h₂ : List (Exchange I)} {s' : Session} :
      Flow.expects s passwordStep = true →
      (flow.method.isValid flow.configuration).Yields h₁ true →
      (flow.method.prepare flow.configuration p s passwordStep).Yields h₂ (false, s') →
      CredentialsTaken flow c p s (h₁ ++ h₂) (.failed passwordStep) s'
  | rejected {h₁ h₂ h₃ : List (Exchange I)} {s₁ s₂ : Session} :
      Flow.expects s passwordStep = true →
      (flow.method.isValid flow.configuration).Yields h₁ true →
      (flow.method.prepare flow.configuration p s passwordStep).Yields h₂ (true, s₁) →
      (flow.method.authenticate flow.configuration c p s₁ passwordStep).Yields h₃ (false, s₂) →
      CredentialsTaken flow c p s (h₁ ++ (h₂ ++ h₃)) (.failed passwordStep) s₂
  | accepted {h₁ h₂ h₃ h₄ : List (Exchange I)} {s₁ s₂ s₃ : Session} {outcome : StepOutcome} :
      Flow.expects s passwordStep = true →
      (flow.method.isValid flow.configuration).Yields h₁ true →
      (flow.method.prepare flow.configuration p s passwordStep).Yields h₂ (true, s₁) →
      (flow.method.authenticate flow.configuration c p s₁ passwordStep).Yields h₃ (true, s₂) →
      Advanced flow p s₂ passwordStep h₄ outcome s₃ →
      CredentialsTaken flow c p s (h₁ ++ (h₂ ++ (h₃ ++ h₄))) outcome s₃

theorem submitCredentials_yields (hy : (flow.submitCredentials c p s).Yields h (outcome, s')) :
    CredentialsTaken flow c p s h outcome s' := by
  unfold Flow.submitCredentials at hy
  split at hy
  · rename_i hx
    obtain ⟨valid, h₁, _, rfl, hv, hy₁⟩ := Program.yields_bind.1 hy
    cases valid with
    | false =>
      obtain ⟨alternative, h₂, _, rfl, ha, rfl, hend⟩ := Program.yields_bind.1 hy₁
      cases hend
      rw [List.append_nil]
      exact .unavailable hx hv ha
    | true =>
      obtain ⟨⟨prepared, s₁⟩, h₂, _, rfl, hp, hy₂⟩ := Program.yields_bind.1 hy₁
      cases prepared with
      | false =>
        obtain ⟨rfl, hend⟩ := hy₂
        cases hend
        rw [List.append_nil]
        exact .unprepared hx hv hp
      | true =>
        obtain ⟨⟨accepted, s₂⟩, h₃, _, rfl, ha, hy₃⟩ := Program.yields_bind.1 hy₂
        cases accepted with
        | false =>
          obtain ⟨rfl, hend⟩ := hy₃
          cases hend
          rw [List.append_nil]
          exact .rejected hx hv hp ha
        | true => exact .accepted hx hv hp ha (advance_yields hy₃)
  · rename_i hx
    obtain ⟨rfl, hend⟩ := hy
    cases hend
    exact .outOfOrder (by simpa using hx)

/-- The ends of submitting the device's response. -/
inductive TokenTaken (flow : Flow I) (p : Parameters) (s : Session) :
    List (Exchange I) → StepOutcome → Session → Prop where
  | outOfOrder : Flow.expects s deviceStep = false →
      TokenTaken flow p s [] (.failed deviceStep) s
  | rejected {h : List (Exchange I)} {s' : Session} :
      Flow.expects s deviceStep = true →
      (flow.method.authenticate flow.configuration .blank p s deviceStep).Yields h (false, s') →
      TokenTaken flow p s h (.failed deviceStep) s'
  | accepted {h₁ h₂ : List (Exchange I)} {s₁ s₂ : Session} {outcome : StepOutcome} :
      Flow.expects s deviceStep = true →
      (flow.method.authenticate flow.configuration .blank p s deviceStep).Yields h₁ (true, s₁) →
      Advanced flow p s₁ deviceStep h₂ outcome s₂ →
      TokenTaken flow p s (h₁ ++ h₂) outcome s₂

theorem submitToken_yields (hy : (flow.submitToken p s).Yields h (outcome, s')) :
    TokenTaken flow p s h outcome s' := by
  unfold Flow.submitToken at hy
  split at hy
  · rename_i hx
    obtain ⟨⟨accepted, s₁⟩, h₁, _, rfl, ha, hy₁⟩ := Program.yields_bind.1 hy
    cases accepted with
    | false =>
      obtain ⟨rfl, hend⟩ := hy₁
      cases hend
      rw [List.append_nil]
      exact .rejected hx ha
    | true => exact .accepted hx ha (advance_yields hy₁)
  · rename_i hx
    obtain ⟨rfl, hend⟩ := hy
    cases hend
    exact .outOfOrder (by simpa using hx)

/-! ## Submissions out of order -/

/-- A submission out of order is refused, and nobody is asked. -/
theorem submit_outOfOrder {submission : Submission} (hx : Flow.expects s submission.step = false)
    (hy : (flow.submit submission s).Yields h (outcome, s')) :
    outcome = .failed submission.step ∧ s' = s ∧ h = [] := by
  cases submission with
  | credentials c p =>
    have hx : Flow.expects s passwordStep = false := hx
    cases submitCredentials_yields hy with
    | outOfOrder _ => exact ⟨rfl, rfl, rfl⟩
    | unavailable hx' _ _ => rw [hx] at hx'; cases hx'
    | unprepared hx' _ _ => rw [hx] at hx'; cases hx'
    | rejected hx' _ _ _ => rw [hx] at hx'; cases hx'
    | accepted hx' _ _ _ _ => rw [hx] at hx'; cases hx'
  | token p =>
    have hx : Flow.expects s deviceStep = false := hx
    cases submitToken_yields hy with
    | outOfOrder _ => exact ⟨rfl, rfl, rfl⟩
    | rejected hx' _ => rw [hx] at hx'; cases hx'
    | accepted hx' _ _ => rw [hx] at hx'; cases hx'

/-- Nothing moves a session that is completed. -/
theorem eq_of_played_completed {turns : List (Turn I Submission Session StepOutcome)}
    (hc : s.completed = true) (hplay : Played flow.submit s turns s') : s' = s := by
  induction hplay with
  | nil => rfl
  | @snoc turns t _ hy ih =>
    have hx : Flow.expects t.before t.command.step = false := by
      rw [ih, Flow.expects_eq_false_iff]
      exact .inl hc
    exact (submit_outOfOrder hx hy).2.1.trans ih

end TwoStepLogin.Login
