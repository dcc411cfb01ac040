import TwoStepLogin.Proofs.Effect.Yields

/-!
# Secrets in questions

Programs that know a secret, one program for each value that the secret may have. If the secret is put
into one question at most, and what comes after that question is told the answer but not the secret,
then two runs with different secrets can only differ by what the answers to that question tell.

* `Veil` — a question that holds the secret;
* `Program.AsksOnly` — programs that ask only questions of some kind;
* `Program.Discreet` — families of programs that put their secret into one question at most;
* `Program.Discreet.runs` — the runs of such a family.
-/

set_option autoImplicit false

namespace TwoStepLogin

/-- A question that holds a secret; its answers are of one type, whatever the secret is. -/
structure Veil (I : Interface) (κ A : Type) where
  question : κ → I.Question
  read : (k : κ) → I.Answer (question k) → A

namespace Outcome

variable {I : Interface} {σ α : Type}

/-- The same outcome after some records. -/
def afterNotes (notes : List Log.Record) (o : Outcome I σ α) : Outcome I σ α :=
  { o with events := notes.map Event.noted ++ o.events }

@[simp] theorem afterNotes_records (notes : List Log.Record) (o : Outcome I σ α) :
    (o.afterNotes notes).records = notes ++ o.records := by
  induction notes with
  | nil => rfl
  | cons entry notes ih => exact congrArg (List.cons entry) ih

@[simp] theorem afterNotes_exchanges (notes : List Log.Record) (o : Outcome I σ α) :
    (o.afterNotes notes).exchanges = o.exchanges := by
  induction notes with
  | nil => rfl
  | cons entry notes ih => exact ih

@[simp] theorem afterNotes_questions (notes : List Log.Record) (o : Outcome I σ α) :
    (o.afterNotes notes).questions = o.questions := by
  induction notes with
  | nil => rfl
  | cons entry notes ih => exact ih

@[simp] theorem after_asked_records (q : I.Question) (a : I.Answer q) (o : Outcome I σ α) :
    (o.after (.asked q a)).records = o.records := rfl

@[simp] theorem after_asked_questions (q : I.Question) (a : I.Answer q) (o : Outcome I σ α) :
    (o.after (.asked q a)).questions = q :: o.questions := rfl

end Outcome

namespace Program

variable {I : Interface} {κ A α β σ : Type}

/-- All questions of a program are of this kind, whatever it is answered. -/
def AsksOnly (allowed : I.Question → Prop) : Program I α → Prop
  | .done _ => True
  | .note _ p => p.AsksOnly allowed
  | .ask q k => allowed q ∧ ∀ a, (k a).AsksOnly allowed

theorem AsksOnly.bind {allowed : I.Question → Prop} {p : Program I α} {f : α → Program I β}
    (hp : p.AsksOnly allowed) (hf : ∀ a, (f a).AsksOnly allowed) : (p >>= f).AsksOnly allowed := by
  induction p with
  | done a => exact hf a
  | note r p ih => exact ih hp
  | ask q k ih => exact ⟨hp.1, fun a => ih a (hp.2 a)⟩

theorem AsksOnly.questions_run {allowed : I.Question → Prop} {p : Program I α}
    (hp : p.AsksOnly allowed) (r : Responder I σ) (s : σ) :
    ∀ q ∈ (p.run r s).questions, allowed q := by
  induction p generalizing s with
  | done a => exact fun q hq => (nomatch hq)
  | note entry p ih => exact ih hp s
  | ask q k ih => exact List.forall_mem_cons.2 ⟨hp.1, ih _ (hp.2 _) _⟩

theorem asksOnly_true (p : Program I α) : p.AsksOnly fun _ => True := by
  induction p with
  | done a => trivial
  | note r p ih => exact ih
  | ask q k ih => exact ⟨trivial, ih⟩

/-- Programs that put their secret into one question at most; after it they go on by the answer only,
and ask only questions of the given kind. -/
inductive Discreet (v : Veil I κ A) (allowed : I.Question → Prop) : (κ → Program I α) → Prop where
  | unused (p : Program I α) : Discreet v allowed fun _ => p
  | note (entry : Log.Record) {p : κ → Program I α} : Discreet v allowed p →
      Discreet v allowed fun k => .note entry (p k)
  | asked {next : (k : κ) → I.Answer (v.question k) → Program I α} :
      (∀ k k' a a', v.read k a = v.read k' a' → next k a = next k' a') →
      (∀ k a, (next k a).AsksOnly allowed) →
      Discreet v allowed fun k => .ask (v.question k) (next k)

/-- After the question only what is read of the answer counts. -/
theorem Discreet.reading {v : Veil I κ A} {allowed : I.Question → Prop} {f : A → Program I α}
    (hf : ∀ answer, (f answer).AsksOnly allowed) :
    Discreet v allowed fun k => .ask (v.question k) fun a => f (v.read k a) :=
  .asked (fun _ _ _ _ hsame => congrArg f hsame) fun _ _ => hf _

/-- What follows for all secrets alike may be added. -/
theorem Discreet.bind {v : Veil I κ A} {allowed : I.Question → Prop} {p : κ → Program I α}
    {f : α → Program I β} (hp : Discreet v allowed p) (hf : ∀ a, (f a).AsksOnly allowed) :
    Discreet v allowed fun k => p k >>= f := by
  induction hp with
  | unused p => exact .unused (p >>= f)
  | note entry _ ih => exact .note entry ih
  | asked hsame hnext =>
    refine .asked (fun k k' a a' h => ?_) fun k a => (hnext k a).bind hf
    rw [hsame k k' a a' h]

/-- Two runs with different secrets either are the same, or they note the same, put their secrets to
the responder, and go on with the same program if the answers are the same. -/
theorem Discreet.runs {v : Veil I κ A} {allowed : I.Question → Prop} {p : κ → Program I α}
    (hp : Discreet v allowed p) (r : Responder I σ) (s : σ) (k k' : κ)
    (hanswers : v.read k (r.respond (v.question k) s).1 = v.read k' (r.respond (v.question k') s).1) :
    (p k).run r s = (p k').run r s ∨
      ∃ (notes : List Log.Record) (rest : Program I α), rest.AsksOnly allowed ∧
        (p k).run r s = ((rest.run r (r.respond (v.question k) s).2).after
          (.asked (v.question k) (r.respond (v.question k) s).1)).afterNotes notes ∧
        (p k').run r s = ((rest.run r (r.respond (v.question k') s).2).after
          (.asked (v.question k') (r.respond (v.question k') s).1)).afterNotes notes := by
  induction hp with
  | unused p => exact .inl rfl
  | note entry _ ih =>
    obtain hsame | ⟨notes, rest, hrest, hrun, hrun'⟩ := ih
    · left
      rw [run_note, run_note, hsame]
    · refine .inr ⟨entry :: notes, rest, hrest, ?_, ?_⟩
      · rw [run_note, hrun]
        rfl
      · rw [run_note, hrun']
        rfl
  | @asked next hsame hnext =>
    refine .inr ⟨[], next k (r.respond (v.question k) s).1, hnext _ _, rfl, ?_⟩
    rw [hsame k k' _ _ hanswers]
    rfl

end Program

end TwoStepLogin
