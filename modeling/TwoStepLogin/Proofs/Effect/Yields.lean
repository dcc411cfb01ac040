import TwoStepLogin.Effect.Program

/-!
# What a program may yield

The surroundings of a program are not under its control. Instead of one responder we look at all
answers that some responder could give.

* `Exchange` — a question with the answer that it got;
* `Program.Yields` — the exchanges and the value of a run, for arbitrary answers;
* `Program.yields_bind` — a sequence yields what its parts yield, one after the other;
* `Program.yields_run` — every run against every responder is covered;
* `Program.yields_unique` — the same answers lead to the same end.

Log records leave no trace here: what a program notes has no influence on its value.
-/

set_option autoImplicit false

namespace TwoStepLogin

/-- A question with the answer that it got. -/
structure Exchange (I : Interface) where
  question : I.Question
  answer : I.Answer question

/-- The exchange of an asking event. -/
def Event.exchange? {I : Interface} : Event I → Option (Exchange I)
  | .noted _ => none
  | .asked q a => some ⟨q, a⟩

/-- The exchanges of a run, in order. -/
def Outcome.exchanges {I : Interface} {σ α : Type} (o : Outcome I σ α) : List (Exchange I) :=
  o.events.filterMap Event.exchange?

namespace Program

variable {I : Interface} {α β σ : Type}

/-- With these answers to its questions the program ends with this value. -/
def Yields : Program I α → List (Exchange I) → α → Prop
  | .done a, h, v => h = [] ∧ v = a
  | .note _ p, h, v => p.Yields h v
  | .ask q k, h, v => ∃ a h', h = ⟨q, a⟩ :: h' ∧ (k a).Yields h' v

@[simp] theorem yields_done {a v : α} {h : List (Exchange I)} :
    (Program.done a : Program I α).Yields h v ↔ h = [] ∧ v = a := Iff.rfl

@[simp] theorem yields_note {r : Log.Record} {p : Program I α} {v : α} {h : List (Exchange I)} :
    (Program.note r p).Yields h v ↔ p.Yields h v := Iff.rfl

@[simp] theorem yields_ask {q : I.Question} {k : I.Answer q → Program I α} {v : α}
    {h : List (Exchange I)} :
    (Program.ask q k).Yields h v ↔ ∃ a h', h = ⟨q, a⟩ :: h' ∧ (k a).Yields h' v := Iff.rfl

/-- A sequence yields what its parts yield, one after the other. -/
theorem yields_bind {p : Program I α} {f : α → Program I β} {v : β} {h : List (Exchange I)} :
    (p >>= f).Yields h v ↔ ∃ a h₁ h₂, h = h₁ ++ h₂ ∧ p.Yields h₁ a ∧ (f a).Yields h₂ v := by
  induction p generalizing h with
  | done a =>
    constructor
    · intro hf
      exact ⟨a, [], h, rfl, ⟨rfl, rfl⟩, hf⟩
    · rintro ⟨_, _, h₂, rfl, ⟨rfl, rfl⟩, hf⟩
      exact hf
  | note r p ih => simpa using ih
  | ask q k ih =>
    simp only [ask_bind, yields_ask, ih]
    constructor
    · rintro ⟨a, _, rfl, b, h₁, h₂, rfl, hk, hf⟩
      exact ⟨b, ⟨q, a⟩ :: h₁, h₂, rfl, ⟨a, h₁, rfl, hk⟩, hf⟩
    · rintro ⟨b, _, h₂, rfl, ⟨a, h₁, rfl, hk⟩, hf⟩
      exact ⟨a, h₁ ++ h₂, rfl, b, h₁, h₂, rfl, hk, hf⟩

/-- Every run against every responder is one of the possible ones. -/
theorem yields_run (r : Responder I σ) (p : Program I α) (s : σ) :
    p.Yields (p.run r s).exchanges (p.run r s).value := by
  induction p generalizing s with
  | done a => exact ⟨rfl, rfl⟩
  | note e p ih => exact ih s
  | ask q k ih => exact ⟨_, _, rfl, ih _ _⟩

@[simp] theorem yields_query {q : I.Question} {a : I.Answer q} {h : List (Exchange I)} :
    (query q).Yields h a ↔ h = [⟨q, a⟩] := by
  constructor
  · rintro ⟨_, _, rfl, rfl, rfl⟩
    rfl
  · rintro rfl
    exact ⟨a, [], rfl, rfl, rfl⟩

/-- What holds of everything a responder may answer holds of every exchange of a run. -/
theorem exchanges_run {P : Exchange I → Prop} {r : Responder I σ}
    (hr : ∀ q w, P ⟨q, (r.respond q w).1⟩) (p : Program I α) (s : σ) :
    ∀ e ∈ (p.run r s).exchanges, P e := by
  induction p generalizing s with
  | done a => intro e he; cases he
  | note r p ih => exact ih s
  | ask q k ih =>
    intro e he
    rcases List.mem_cons.1 he with rfl | he
    · exact hr q s
    · exact ih _ _ e he

/-- Answers that only depend on the question leave one conversation. -/
theorem yields_unique (answer : (q : I.Question) → I.Answer q) {p : Program I α} {v v' : α}
    {h h' : List (Exchange I)} (hy : p.Yields h v) (hy' : p.Yields h' v')
    (ha : ∀ e ∈ h, e.answer = answer e.question) (ha' : ∀ e ∈ h', e.answer = answer e.question) :
    h' = h ∧ v' = v := by
  induction p generalizing h h' with
  | done a =>
    obtain ⟨rfl, rfl⟩ := hy
    exact hy'
  | note r p ih => exact ih hy hy' ha ha'
  | ask q k ih =>
    obtain ⟨b, rest, rfl, hk⟩ := hy
    obtain ⟨b', rest', rfl, hk'⟩ := hy'
    obtain ⟨hb, hrest⟩ := List.forall_mem_cons.1 ha
    obtain ⟨hb', hrest'⟩ := List.forall_mem_cons.1 ha'
    obtain rfl : b' = b := hb'.trans hb.symm
    obtain ⟨rfl, rfl⟩ := ih b' hk hk' hrest hrest'
    exact ⟨rfl, rfl⟩

end Program

end TwoStepLogin
