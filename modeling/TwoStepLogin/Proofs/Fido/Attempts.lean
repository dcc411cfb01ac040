import TwoStepLogin.Fido.Discovery
import TwoStepLogin.Proofs.Effect.Yields

/-!
# Attempts to find a configuration

Whatever is answered to them, the attempts form one conversation: some fetches that met a fault which
may pass, with a pause behind each, and a last fetch.

* `Fido.Discovery.fetched`, `Fido.Discovery.waited` — the exchanges of an attempt;
* `Fido.Discovery.Ended` — what the last answer means;
* `Fido.Discovery.attemptsFrom_yields`, `Fido.discover_yields` — the conversation.
-/

set_option autoImplicit false

namespace TwoStepLogin.Fido

open Login (surroundings)

namespace Fetched

variable {answer : Except Fault Metadata} {metadata : Metadata} {fault : Fault}

theorem ofAnswer_eq_loaded : ofAnswer answer = .loaded metadata ↔ answer = .ok metadata := by
  rcases answer with fault | metadata
  · cases hr : fault.isRetryable <;> simp [ofAnswer, hr]
  · simp [ofAnswer]

theorem ofAnswer_eq_retryable :
    ofAnswer answer = .retryable fault ↔ answer = .error fault ∧ fault.isRetryable = true := by
  rcases answer with other | metadata
  · cases hr : other.isRetryable <;> simp [ofAnswer, hr] <;> rintro rfl <;> exact hr
  · simp [ofAnswer]

theorem ofAnswer_eq_fatal :
    ofAnswer answer = .fatal fault ↔ answer = .error fault ∧ fault.isRetryable = false := by
  rcases answer with other | metadata
  · cases hr : other.isRetryable <;> simp [ofAnswer, hr] <;> rintro rfl <;> exact hr
  · simp [ofAnswer]

end Fetched

namespace Discovery

/-- A fetch and its answer. -/
def fetched (url : String) (answer : Except Fault Metadata) : Exchange surroundings :=
  ⟨.fido (.fetchMetadata url), answer⟩

/-- A pause. -/
def paused (policy : RetryPolicy) : Exchange surroundings := ⟨.pause policy.delay, ()⟩

/-- Fetches that met faults, with a pause behind each. -/
def waited (policy : RetryPolicy) (url : String) (faults : List Fault) :
    List (Exchange surroundings) :=
  faults.flatMap fun fault => [fetched url (.error fault), paused policy]

/-- The last answer of an attempt of that number, with so many attempts left, and the result. -/
inductive Ended (attempt : Nat) : Nat → Except Fault Metadata → Except Failure Metadata → Prop where
  | loaded (left : Nat) (metadata : Metadata) : Ended attempt left (.ok metadata) (.ok metadata)
  | fatal (left : Nat) {fault : Fault} : fault.isRetryable = false →
      Ended attempt left (.error fault) (.error (.fatal attempt fault))
  | exhausted {fault : Fault} : fault.isRetryable = true →
      Ended attempt 0 (.error fault) (.error (.retriesExhausted attempt fault))

variable {policy : RetryPolicy} {url : String} {attempt : Nat} {h : List (Exchange surroundings)}
  {v : Except Failure Metadata}

/-- One attempt: it ends the search, or it met a fault that may pass. -/
theorem attemptOnce_yields {otherwise : Fault → Login.Action (Except Failure Metadata)} (left : Nat)
    (hy : (attemptOnce policy url attempt otherwise).Yields h v) :
    (∃ answer, h = [fetched url answer] ∧ Ended attempt left answer v) ∨
      ∃ fault h', fault.isRetryable = true ∧ h = fetched url (.error fault) :: h' ∧
        (otherwise fault).Yields h' v := by
  rw [attemptOnce] at hy
  simp only [Program.log_bind, Program.yields_note] at hy
  obtain ⟨answer, _, h', rfl, ⟨_, _, rfl, rfl, rfl⟩, hrest⟩ := Program.yields_bind.1 hy
  cases hf : Fetched.ofAnswer answer with
  | loaded metadata =>
    obtain rfl := Fetched.ofAnswer_eq_loaded.1 hf
    obtain ⟨rfl, rfl⟩ := hrest
    exact .inl ⟨.ok metadata, rfl, .loaded left metadata⟩
  | fatal fault =>
    obtain ⟨rfl, hr⟩ := Fetched.ofAnswer_eq_fatal.1 hf
    rw [hf] at hrest
    obtain ⟨rfl, rfl⟩ := hrest
    exact .inl ⟨.error fault, rfl, .fatal left hr⟩
  | retryable fault =>
    obtain ⟨rfl, hr⟩ := Fetched.ofAnswer_eq_retryable.1 hf
    rw [hf] at hrest
    exact .inr ⟨fault, h', hr, rfl, hrest⟩

/-- All attempts: faults that may pass, at most as many as there are attempts left, and then a last
answer. -/
theorem attemptsFrom_yields {left : Nat} (hy : (attemptsFrom policy url attempt left).Yields h v) :
    ∃ faults last left', h = waited policy url faults ++ [fetched url last] ∧
      (∀ fault ∈ faults, fault.isRetryable = true) ∧ left = faults.length + left' ∧
      Ended (attempt + faults.length) left' last v := by
  induction left generalizing attempt h with
  | zero =>
    obtain ⟨answer, rfl, hend⟩ | ⟨fault, h', hr, rfl, hother⟩ := attemptOnce_yields 0 hy
    · exact ⟨[], answer, 0, rfl, fun _ hf => (nomatch hf), rfl, hend⟩
    · obtain ⟨rfl, rfl⟩ := hother
      exact ⟨[], .error fault, 0, rfl, fun _ hf => (nomatch hf), rfl, .exhausted hr⟩
  | succ left ih =>
    obtain ⟨answer, rfl, hend⟩ | ⟨fault, h', hr, rfl, hother⟩ :=
      attemptOnce_yields (left + 1) hy
    · exact ⟨[], answer, left + 1, rfl, fun _ hf => (nomatch hf), (Nat.zero_add _).symm, hend⟩
    · obtain ⟨_, h'', rfl, hlater⟩ := hother
      obtain ⟨faults, last, left', rfl, hfaults, hleft, hend⟩ := ih hlater
      refine ⟨fault :: faults, last, left', rfl, List.forall_mem_cons.2 ⟨hr, hfaults⟩, ?_, ?_⟩
      · rw [List.length_cons]
        omega
      · rw [List.length_cons, Nat.add_comm faults.length 1, ← Nat.add_assoc]
        exact hend

end Discovery

/-- The whole search. -/
theorem discover_yields {policy : RetryPolicy} {serverUri : String} {h : List (Exchange surroundings)}
    {v : Except Discovery.Failure Metadata} (hy : (discover policy serverUri).Yields h v) :
    ∃ faults last left, h = Discovery.waited policy (metadataUrl serverUri) faults ++
        [Discovery.fetched (metadataUrl serverUri) last] ∧
      (∀ fault ∈ faults, fault.isRetryable = true) ∧ faults.length + left + 1 = policy.attempts ∧
      Discovery.Ended (faults.length + 1) left last v := by
  obtain ⟨faults, last, left, rfl, hfaults, hleft, hend⟩ :=
    Discovery.attemptsFrom_yields (Program.yields_note.1 hy)
  have hpositive : 1 ≤ policy.attempts := Nat.le_max_right _ _
  refine ⟨faults, last, left, rfl, hfaults, by omega, ?_⟩
  rwa [Nat.add_comm] at hend

end TwoStepLogin.Fido
