import TwoStepLogin.Effect.Log

/-!
# Programs that question their surroundings

A login depends on parties that it does not control: a user directory, a FIDO server, a clock.
A `Program` is a finite tree that writes log records and puts questions to such parties; what it
does next may depend on each answer, and nothing is assumed about the answers.

* `Interface` — the questions that may be put and the type of answer each of them has;
* `Program` — the tree, a lawful monad;
* `Responder` — someone who answers every question, from a state of its own;
* `Program.run` — the value, the responder's state and all events of a run, in order;
* `Handler`, `Program.interpret` — answers questions by programs over another interface;
* `Program.run_bind` — a run of a sequence is the run of its parts, one after the other.
-/

set_option autoImplicit false

namespace TwoStepLogin

open Log (Record)

/-- Questions, and for each of them the type of its answers. -/
structure Interface where
  Question : Type
  Answer : Question → Type

/-- A computation that logs, asks and finally yields a value. -/
inductive Program (I : Interface) (α : Type) : Type where
  | done (value : α)
  | note (entry : Record) (next : Program I α)
  | ask (question : I.Question) (next : I.Answer question → Program I α)

namespace Program

variable {I J : Interface} {α β γ σ : Type}

/-- Continue with `f` where the program ends. -/
def andThen : Program I α → (α → Program I β) → Program I β
  | .done a, f => f a
  | .note r p, f => .note r (p.andThen f)
  | .ask q k, f => .ask q fun a => (k a).andThen f

instance : Monad (Program I) where
  pure := .done
  bind := andThen

@[simp] theorem pure_eq (a : α) : (pure a : Program I α) = .done a := rfl

@[simp] theorem done_bind (a : α) (f : α → Program I β) : (Program.done a >>= f) = f a := rfl

@[simp] theorem note_bind (r : Record) (p : Program I α) (f : α → Program I β) :
    (Program.note r p >>= f) = .note r (p >>= f) := rfl

@[simp] theorem ask_bind (q : I.Question) (k : I.Answer q → Program I α) (f : α → Program I β) :
    (Program.ask q k >>= f) = .ask q (fun a => k a >>= f) := rfl

theorem bind_done (p : Program I α) : (p >>= Program.done) = p := by
  induction p with
  | done a => rfl
  | note r p ih => simp [ih]
  | ask q k ih => simp [ih]

theorem bind_assoc' (p : Program I α) (f : α → Program I β) (g : β → Program I γ) :
    (p >>= f >>= g) = (p >>= fun a => f a >>= g) := by
  induction p with
  | done a => rfl
  | note r p ih => simp [ih]
  | ask q k ih => simp [ih]

instance : LawfulMonad (Program I) :=
  LawfulMonad.mk' (Program I)
    (fun p => show (p >>= fun a => Program.done (id a)) = p from bind_done p)
    (fun _ _ => rfl)
    bind_assoc'

/-- Write one record. -/
def log (entry : Record) : Program I Unit := .note entry (.done ())

/-- Put one question and yield its answer. -/
def query (question : I.Question) : Program I (I.Answer question) := .ask question .done

/-- Write several records in order. -/
def logAll : List Record → Program I Unit
  | [] => .done ()
  | r :: rs => .note r (logAll rs)

@[simp] theorem log_bind (r : Record) (f : Unit → Program I β) : (log r >>= f) = .note r (f ()) := rfl

@[simp] theorem query_bind (q : I.Question) (f : I.Answer q → Program I β) :
    (query q >>= f) = .ask q f := rfl

end Program

/-- Something that happens during a run. -/
inductive Event (I : Interface) : Type where
  | noted (entry : Record)
  | asked (question : I.Question) (answer : I.Answer question)

namespace Event

variable {I : Interface}

/-- The record of a logging event. -/
def record? : Event I → Option Record
  | .noted r => some r
  | .asked _ _ => none

/-- The question of an asking event. -/
def question? : Event I → Option I.Question
  | .noted _ => none
  | .asked q _ => some q

end Event

/-- Answers every question, reading and changing a state of its own. -/
structure Responder (I : Interface) (σ : Type) where
  respond : (question : I.Question) → σ → I.Answer question × σ

/-- What a run leaves: the value, the responder's state and the events in order. -/
structure Outcome (I : Interface) (σ α : Type) where
  value : α
  state : σ
  events : List (Event I)

namespace Outcome

variable {I : Interface} {σ α : Type}

/-- The records written during the run. -/
def records (o : Outcome I σ α) : List Record := o.events.filterMap Event.record?

/-- The questions put during the run. -/
def questions (o : Outcome I σ α) : List I.Question := o.events.filterMap Event.question?

/-- The same outcome with an event put in front. -/
def after (e : Event I) (o : Outcome I σ α) : Outcome I σ α := { o with events := e :: o.events }

@[simp] theorem after_value (e : Event I) (o : Outcome I σ α) : (o.after e).value = o.value := rfl

@[simp] theorem after_state (e : Event I) (o : Outcome I σ α) : (o.after e).state = o.state := rfl

@[simp] theorem after_events (e : Event I) (o : Outcome I σ α) :
    (o.after e).events = e :: o.events := rfl

end Outcome

namespace Program

variable {I J : Interface} {α β σ : Type}

/-- Run a program against a responder. -/
def run (r : Responder I σ) : Program I α → σ → Outcome I σ α
  | .done a, s => ⟨a, s, []⟩
  | .note e p, s => (p.run r s).after (.noted e)
  | .ask q k, s =>
    let answered := r.respond q s
    ((k answered.1).run r answered.2).after (.asked q answered.1)

@[simp] theorem run_done (r : Responder I σ) (a : α) (s : σ) :
    (Program.done a : Program I α).run r s = ⟨a, s, []⟩ := rfl

@[simp] theorem run_note (r : Responder I σ) (e : Record) (p : Program I α) (s : σ) :
    (Program.note e p).run r s = (p.run r s).after (.noted e) := rfl

@[simp] theorem run_ask (r : Responder I σ) (q : I.Question) (k : I.Answer q → Program I α) (s : σ) :
    (Program.ask q k).run r s =
      ((k (r.respond q s).1).run r (r.respond q s).2).after (.asked q (r.respond q s).1) := rfl

/-- The run of a sequence: first the one part, then the other from the state it left. -/
theorem run_bind (r : Responder I σ) (p : Program I α) (f : α → Program I β) (s : σ) :
    (p >>= f).run r s =
      ⟨((f (p.run r s).value).run r (p.run r s).state).value,
       ((f (p.run r s).value).run r (p.run r s).state).state,
       (p.run r s).events ++ ((f (p.run r s).value).run r (p.run r s).state).events⟩ := by
  induction p generalizing s with
  | done a => rfl
  | note e p ih => simp [ih, Outcome.after]
  | ask q k ih => simp [ih, Outcome.after]

end Program

/-- Answers the questions of one interface by programs over another, from a state of its own. -/
structure Handler (I J : Interface) (σ : Type) where
  handle : (question : I.Question) → σ → Program J (I.Answer question × σ)

namespace Program

variable {I J : Interface} {α σ : Type}

/-- Replace every question by the handler's program for it. -/
def interpret (h : Handler I J σ) : Program I α → σ → Program J (α × σ)
  | .done a, s => .done (a, s)
  | .note e p, s => .note e (p.interpret h s)
  | .ask q k, s => (h.handle q s).andThen fun answered => (k answered.1).interpret h answered.2

end Program

end TwoStepLogin
