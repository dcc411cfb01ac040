import TwoStepLogin.Proofs.Effect.Yields

/-!
# Conversations

Commands are carried out one after the other: each is a program that reads a state, replies and
leaves a state for the next one. All programs question the same responder, which may remember
everything it was asked.

* `Turn` — a command with the state before it, its exchanges, its reply and the state after it;
* `play` — the turns that a list of commands leads to;
* `Played` — turns that some responder could have led to;
* `played_play` — `play` leads to such turns only;
* `play_append` — commands in two parts are carried out one part after the other;
* `Played.split` — a conversation up to a turn, the turn, and the conversation after it.
-/

set_option autoImplicit false

namespace TwoStepLogin

/-- One command of a conversation and what came of it. -/
structure Turn (I : Interface) (C S B : Type) where
  command : C
  before : S
  exchanges : List (Exchange I)
  reply : B
  after : S

/-- A turn without its exchanges. -/
def Turn.outline {I : Interface} {C S B : Type} (t : Turn I C S B) : C × S × B × S :=
  (t.command, t.before, t.reply, t.after)

variable {I : Interface} {C S B σ : Type}

/-- The state that is left after some turns. -/
def leftAfter (s : S) (turns : List (Turn I C S B)) : S := turns.foldl (fun _ t => t.after) s

/-- All exchanges of some turns, in order. -/
def exchangesOf (turns : List (Turn I C S B)) : List (Exchange I) := turns.flatMap Turn.exchanges

/-- Carry out commands from a state, against a responder in some state of its own. -/
def play (act : C → S → Program I (B × S)) (r : Responder I σ) : List C → S → σ → List (Turn I C S B)
  | [], _, _ => []
  | c :: rest, s, w =>
    let o := (act c s).run r w
    ⟨c, s, o.exchanges, o.value.1, o.value.2⟩ :: play act r rest o.value.2 o.state

/-- Turns that commands may lead to, whatever is answered. -/
inductive Played (act : C → S → Program I (B × S)) (s : S) : List (Turn I C S B) → S → Prop where
  | nil : Played act s [] s
  | snoc {turns : List (Turn I C S B)} {t : Turn I C S B} :
      Played act s turns t.before →
      (act t.command t.before).Yields t.exchanges (t.reply, t.after) →
      Played act s (turns ++ [t]) t.after

variable {act : C → S → Program I (B × S)} {s s' : S} {turns : List (Turn I C S B)}
  {t : Turn I C S B}

@[simp] theorem exchangesOf_nil : exchangesOf ([] : List (Turn I C S B)) = [] := rfl

@[simp] theorem exchangesOf_cons (t : Turn I C S B) (turns : List (Turn I C S B)) :
    exchangesOf (t :: turns) = t.exchanges ++ exchangesOf turns := rfl

@[simp] theorem exchangesOf_append (turns more : List (Turn I C S B)) :
    exchangesOf (turns ++ more) = exchangesOf turns ++ exchangesOf more := by
  simp [exchangesOf]

namespace Played

/-- A turn in front of a conversation. -/
theorem cons (ht : (act t.command t.before).Yields t.exchanges (t.reply, t.after))
    (h : Played act t.after turns s') : Played act t.before (t :: turns) s' := by
  induction h with
  | nil => exact snoc nil ht
  | snoc _ hu ih => exact snoc ih hu

/-- A conversation up to a turn, the turn, and the conversation after it. -/
theorem split {pre post : List (Turn I C S B)} (h : Played act s turns s')
    (he : turns = pre ++ t :: post) :
    Played act s pre t.before ∧ (act t.command t.before).Yields t.exchanges (t.reply, t.after) ∧
      Played act t.after post s' := by
  induction h generalizing post with
  | nil => simp at he
  | @snoc front u hf hu ih =>
    -- Either the turn in question is the last one, or it lies in the part before.
    rcases post.eq_nil_or_concat with rfl | ⟨post', last, rfl⟩
    · obtain ⟨rfl, hut⟩ := List.append_inj' he rfl
      obtain rfl : u = t := by simpa using hut
      exact ⟨hf, hu, nil⟩
    · rw [List.concat_eq_append, ← List.cons_append, ← List.append_assoc] at he
      obtain ⟨hfe, hul⟩ := List.append_inj' he rfl
      obtain rfl : u = last := by simpa using hul
      obtain ⟨hpre, ht, hpost⟩ := ih hfe
      rw [List.concat_eq_append]
      exact ⟨hpre, ht, snoc hpost hu⟩

/-- Every turn follows a conversation of its own. -/
theorem of_mem (h : Played act s turns s') (ht : t ∈ turns) :
    ∃ pre post, turns = pre ++ t :: post ∧ Played act s pre t.before ∧
      (act t.command t.before).Yields t.exchanges (t.reply, t.after) := by
  obtain ⟨pre, post, he⟩ := List.append_of_mem ht
  obtain ⟨hpre, hy, _⟩ := h.split he
  exact ⟨pre, post, he, hpre, hy⟩

/-- Every state of a conversation is left by some conversation. -/
theorem of_mem_states (h : Played act s turns s') {state : S}
    (hs : state ∈ s :: turns.map Turn.after) : ∃ front, Played act s front state := by
  rcases List.mem_cons.1 hs with rfl | hs
  · exact ⟨[], nil⟩
  · obtain ⟨t, ht, rfl⟩ := List.mem_map.1 hs
    obtain ⟨pre, -, -, hpre, hy⟩ := h.of_mem ht
    exact ⟨pre ++ [t], snoc hpre hy⟩

end Played

/-- Whatever the responder is, the turns of a conversation are possible ones. -/
theorem played_play (act : C → S → Program I (B × S)) (r : Responder I σ) (cs : List C) (s : S)
    (w : σ) : Played act s (play act r cs s w) (leftAfter s (play act r cs s w)) := by
  induction cs generalizing s w with
  | nil => exact .nil
  | cons c cs ih => exact .cons (t := ⟨c, s, _, _, _⟩) (Program.yields_run r (act c s) w) (ih _ _)

/-- The commands of a conversation are the ones that were given. -/
theorem map_command_play (act : C → S → Program I (B × S)) (r : Responder I σ) (cs : List C) (s : S)
    (w : σ) : (play act r cs s w).map Turn.command = cs := by
  induction cs generalizing s w with
  | nil => rfl
  | cons c cs ih => exact congrArg (c :: ·) (ih _ _)

/-- Commands in two parts are carried out one part after the other. -/
theorem play_append (act : C → S → Program I (B × S)) (r : Responder I Unit) (cs more : List C) (s : S) :
    play act r (cs ++ more) s () =
      play act r cs s () ++ play act r more (leftAfter s (play act r cs s ())) () := by
  induction cs generalizing s with
  | nil => rfl
  | cons c cs ih => exact congrArg (List.cons _) (ih _)

/-- What holds of everything a responder may answer holds of every exchange of a conversation. -/
theorem exchanges_play {P : Exchange I → Prop} {r : Responder I σ}
    (hr : ∀ q w, P ⟨q, (r.respond q w).1⟩) (act : C → S → Program I (B × S)) (cs : List C) (s : S)
    (w : σ) : ∀ t ∈ play act r cs s w, ∀ e ∈ t.exchanges, P e := by
  induction cs generalizing s w with
  | nil => intro t ht; cases ht
  | cons c cs ih =>
    intro t ht
    rcases List.mem_cons.1 ht with rfl | ht
    · exact Program.exchanges_run hr (act c s) w
    · exact ih _ _ t ht

end TwoStepLogin
