import TwoStepLogin.Proofs.Effect.Yields

/-!
# Programs whose questions are relayed

A handler answers questions by putting others to parties of its own. A program whose questions are
relayed in this way has the same conversation as before; in place of each of its exchanges the parties
see a conversation with the handler.

* `Handler.Relays` — what the parties see of a conversation;
* `Program.yields_interpret` — conversations of the program and of the parties belong together.
-/

set_option autoImplicit false

namespace TwoStepLogin

variable {I J : Interface} {α σ : Type}

/-- A conversation, and what the parties see of it, from the handler's state before it to the one
after it. -/
inductive Handler.Relays (r : Handler I J σ) :
    List (Exchange I) → σ → List (Exchange J) → σ → Prop where
  | nil (s : σ) : r.Relays [] s [] s
  | cons {question : I.Question} {answer : I.Answer question} {rest : List (Exchange I)}
      {s s₁ s₂ : σ} {seen later : List (Exchange J)} :
      (r.handle question s).Yields seen (answer, s₁) → r.Relays rest s₁ later s₂ →
      r.Relays (⟨question, answer⟩ :: rest) s (seen ++ later) s₂

/-- The parties see a conversation of the relayed program exactly if it is relayed from one of the
program itself, which yields the same value. -/
theorem Program.yields_interpret {r : Handler I J σ} {p : Program I α} {s s' : σ}
    {seen : List (Exchange J)} {v : α} :
    (p.interpret r s).Yields seen (v, s') ↔ ∃ h, p.Yields h v ∧ r.Relays h s seen s' := by
  induction p generalizing s seen with
  | done a =>
    constructor
    · rintro ⟨rfl, h⟩
      cases h
      exact ⟨[], ⟨rfl, rfl⟩, .nil _⟩
    · rintro ⟨_, ⟨rfl, rfl⟩, hr⟩
      cases hr
      exact ⟨rfl, rfl⟩
  | note entry p ih => exact ih
  | ask question next ih =>
    have hparts : ((Program.ask question next).interpret r s).Yields seen (v, s') ↔
        ∃ answered seen₁ seen₂, seen = seen₁ ++ seen₂ ∧ (r.handle question s).Yields seen₁ answered ∧
          ((next answered.1).interpret r answered.2).Yields seen₂ (v, s') := yields_bind
    rw [hparts]
    constructor
    · rintro ⟨⟨answer, s₁⟩, now, later, rfl, hnow, hlater⟩
      obtain ⟨h, hy, hr⟩ := (ih answer).1 hlater
      exact ⟨⟨question, answer⟩ :: h, ⟨answer, h, rfl, hy⟩, .cons hnow hr⟩
    · rintro ⟨_, ⟨answer, h, rfl, hy⟩, hr⟩
      cases hr with
      | cons hnow hlater => exact ⟨_, _, _, rfl, hnow, (ih answer).2 ⟨h, hy, hlater⟩⟩

end TwoStepLogin
