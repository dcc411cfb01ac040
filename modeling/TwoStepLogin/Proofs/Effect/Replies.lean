import TwoStepLogin.Proofs.Effect.Yields

/-!
# What a responder replied

A conversation that a program may have with somebody, and the one that it has with a given responder
from a given state: there every answer is the responder's own, so that facts about answers become
facts about what the responder would say.

* `Responder.Replies` — the answers of a conversation are those of a responder;
* `Program.replies_run` — so it is in a run;
* `Outcome.questions_eq` — the questions of a run are those of its conversation.
-/

set_option autoImplicit false

namespace TwoStepLogin

variable {I : Interface} {α σ : Type}

/-- A responder gives these answers, one after the other, and gets from one state to another by them. -/
def Responder.Replies (r : Responder I σ) : σ → List (Exchange I) → σ → Prop
  | w, [], w' => w' = w
  | w, e :: later, w' =>
    e.answer = (r.respond e.question w).1 ∧ r.Replies (r.respond e.question w).2 later w'

/-- In a run every answer is the responder's. -/
theorem Program.replies_run (r : Responder I σ) (p : Program I α) (w : σ) :
    r.Replies w (p.run r w).exchanges (p.run r w).state := by
  induction p generalizing w with
  | done a => rfl
  | note entry p ih => exact ih w
  | ask question next ih => exact ⟨rfl, ih _ _⟩

/-- The questions of a run, read off its exchanges. -/
theorem Outcome.questions_eq (o : Outcome I σ α) :
    o.questions = o.exchanges.map Exchange.question := by
  rw [Outcome.questions, Outcome.exchanges, List.map_filterMap]
  congr 1
  funext event
  cases event with
  | noted entry => rfl
  | asked question answer => rfl

end TwoStepLogin
