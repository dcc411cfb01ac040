import TwoStepLogin.Proofs.Login.Consultation

/-!
# One submission under any method

What a submission does to the step of a session, and which preparations and judgements it asks the
method for, as long as the method leaves the step to the flow.

* `Login.StepCall`, `Login.stepCalls` — preparations and judgements, read off the calls of a method;
* `Login.Steady` — what is expected of a method: a fixed number of steps, and that it leaves the
  step and the mark of completion of a session to the flow;
* `Login.Rejecting`, `Login.Accepting` — the calls for a step that fails or succeeds;
* `Login.StepTurn`, `Login.stepTurn_of_submit` — the ends of a submission.
-/

set_option autoImplicit false

namespace TwoStepLogin.Login

/-- A preparation or a judgement of a step, with its result. -/
inductive StepCall where
  | prepared (step : UInt32) (ok : Bool)
  | judged (step : UInt32) (ok : Bool)
  deriving DecidableEq, Repr

/-- The step that a call is for. -/
def StepCall.step : StepCall → UInt32
  | .prepared step _ => step
  | .judged step _ => step

/-- Preparations and judgements among the calls of a method. -/
def stepCall? : Exchange calls → Option StepCall
  | ⟨.prepare _ _ _ step, answer⟩ => some (.prepared step (answer : Bool × Session).1)
  | ⟨.authenticate _ _ _ _ step, answer⟩ => some (.judged step (answer : Bool × Session).1)
  | _ => none

/-- The preparations and judgements of a run, in order. -/
def stepCalls (h : List (Exchange calls)) : List StepCall := h.filterMap stepCall?

/-- A method of `n` steps that does not move a session by itself. -/
def Steady (n : UInt32) : Exchange calls → Prop
  | ⟨.stepCount _, count⟩ => count = n
  | ⟨.prepare _ _ s _, answer⟩ =>
    (answer : Bool × Session).2.step = s.step ∧
      (answer : Bool × Session).2.completed = s.completed
  | ⟨.authenticate _ _ _ s _, answer⟩ =>
    (answer : Bool × Session).2.step = s.step ∧
      (answer : Bool × Session).2.completed = s.completed
  | _ => True

/-- A session that waits for a step. -/
def Waits (k : UInt32) (s : Session) : Prop := s.step = k ∧ s.completed = false

theorem waits_of_expects {k : UInt32} {s : Session} (hx : Flow.expects s k = true) : Waits k s :=
  ⟨(Flow.expects_eq_true_iff.1 hx).2, (Flow.expects_eq_true_iff.1 hx).1⟩

/-- A session waits for one step at most. -/
theorem Waits.unique {k l : UInt32} {s : Session} (hk : Waits k s) (hl : Waits l s) : k = l :=
  hk.1.symm.trans hl.1

theorem Waits.not_completed {k : UInt32} {s : Session} (hw : Waits k s) : s.completed ≠ true :=
  Bool.eq_false_iff.1 hw.2

theorem Steady.count_eq {n count : UInt32} {configuration : Configuration}
    (hs : Steady n ⟨.stepCount configuration, count⟩) : count = n := hs

/-- A steady method keeps a session waiting. -/
theorem Waits.prepared {n k step : UInt32} {configuration : Configuration} {p : Parameters}
    {s s' : Session} {ok : Bool} (hw : Waits k s)
    (hs : Steady n ⟨.prepare configuration p s step, (ok, s')⟩) : Waits k s' :=
  ⟨hs.1.trans hw.1, hs.2.trans hw.2⟩

theorem Waits.judged {n k step : UInt32} {configuration : Configuration} {c : Credentials}
    {p : Parameters} {s s' : Session} {ok : Bool} (hw : Waits k s)
    (hs : Steady n ⟨.authenticate configuration c p s step, (ok, s')⟩) : Waits k s' :=
  ⟨hs.1.trans hw.1, hs.2.trans hw.2⟩

@[simp] theorem stepCalls_nil : stepCalls [] = [] := rfl

@[simp] theorem stepCalls_append (h h' : List (Exchange calls)) :
    stepCalls (h ++ h') = stepCalls h ++ stepCalls h' := List.filterMap_append

/-! ## One submission -/

/-- The calls of a submission that does not get through its step. -/
inductive Rejecting : UInt32 → List StepCall → Prop where
  | unavailable : Rejecting passwordStep []
  | unprepared : Rejecting passwordStep [.prepared passwordStep false]
  | password : Rejecting passwordStep [.prepared passwordStep true, .judged passwordStep false]
  | device : Rejecting deviceStep [.judged deviceStep false]

/-- The calls of a submission that gets through its step, before it goes on. -/
inductive Accepting : UInt32 → List StepCall → Prop where
  | password : Accepting passwordStep [.prepared passwordStep true, .judged passwordStep true]
  | device : Accepting deviceStep [.judged deviceStep true]

/-- What a submission for step `k` does under a method of `n` steps. -/
inductive StepTurn (n k : UInt32) (s : Session) :
    List (Exchange calls) → StepOutcome → Session → Prop where
  | outOfOrder : Flow.expects s k = false → StepTurn n k s [] (.failed k) s
  | rejected {h : List (Exchange calls)} {s' : Session} : Waits k s →
      Rejecting k (stepCalls h) → Waits k s' → StepTurn n k s h (.failed k) s'
  | completed {h : List (Exchange calls)} {s' : Session} {lead : List StepCall} {ok : Bool} :
      Waits k s → Accepting k lead → n ≤ k →
      stepCalls h = lead ++ [.prepared (k + 1) ok] → s'.step = k + 1 → s'.completed = true →
      StepTurn n k s h .completed s'
  | advanced {h : List (Exchange calls)} {s' : Session} {lead : List StepCall} {page : String} :
      Waits k s → Accepting k lead → ¬n ≤ k →
      stepCalls h = lead ++ [.prepared (k + 1) true] → Waits (k + 1) s' →
      StepTurn n k s h (.nextStep (k + 1) page) s'
  | unprepared {h : List (Exchange calls)} {s' : Session} {lead : List StepCall} :
      Waits k s → Accepting k lead → ¬n ≤ k →
      stepCalls h = lead ++ [.prepared (k + 1) false] → Waits k s' →
      StepTurn n k s h (.failed (k + 1)) s'

/-- Going on after an accepted step, with the calls `lead` that have been made for it. -/
theorem stepTurn_of_advanced {n k : UInt32} {configuration : Configuration} {p : Parameters}
    {s s₁ s' : Session} {lead h : List (Exchange calls)} {outcome : StepOutcome}
    (hw : Waits k s) (ha : Accepting k (stepCalls lead)) (hw₁ : Waits k s₁)
    (hadv : Advanced ⟨consulting, configuration⟩ p s₁ k h outcome s')
    (hs : ∀ e ∈ h, Steady n e) : StepTurn n k s (lead ++ h) outcome s' := by
  cases hadv with
  | completed hc he hp hn =>
    obtain rfl := Program.yields_query.1 hc
    obtain rfl := Program.yields_query.1 he
    obtain rfl := Program.yields_query.1 hp
    simp only [List.cons_append, List.nil_append, List.forall_mem_cons] at hs
    obtain rfl := hs.1.count_eq
    exact .completed hw ha hn (stepCalls_append _ _) rfl rfl
  | nextStep hc he hp hn hg =>
    obtain rfl := Program.yields_query.1 hc
    obtain rfl := Program.yields_query.1 he
    obtain rfl := Program.yields_query.1 hp
    obtain rfl := Program.yields_query.1 hg
    simp only [List.cons_append, List.nil_append, List.forall_mem_cons] at hs
    obtain rfl := hs.1.count_eq
    exact .advanced hw ha hn (stepCalls_append _ _) ⟨rfl, (hw₁.prepared hs.2.2.1).2⟩
  | unprepared hc he hp hn =>
    obtain rfl := Program.yields_query.1 hc
    obtain rfl := Program.yields_query.1 he
    obtain rfl := Program.yields_query.1 hp
    simp only [List.cons_append, List.nil_append, List.forall_mem_cons] at hs
    obtain rfl := hs.1.count_eq
    exact .unprepared hw ha hn (stepCalls_append _ _) (hw₁.prepared hs.2.2.1)

theorem stepTurn_of_credentials {n : UInt32} {configuration : Configuration} {c : Credentials}
    {p : Parameters} {s s' : Session} {h : List (Exchange calls)} {outcome : StepOutcome}
    (ht : CredentialsTaken ⟨consulting, configuration⟩ c p s h outcome s')
    (hs : ∀ e ∈ h, Steady n e) : StepTurn n passwordStep s h outcome s' := by
  cases ht with
  | outOfOrder hx => exact .outOfOrder hx
  | unavailable hx hv ha =>
    obtain rfl := Program.yields_query.1 hv
    obtain rfl := Program.yields_query.1 ha
    have hw := waits_of_expects hx
    exact .rejected hw .unavailable hw
  | unprepared hx hv hp =>
    obtain rfl := Program.yields_query.1 hv
    obtain rfl := Program.yields_query.1 hp
    have hw := waits_of_expects hx
    simp only [List.cons_append, List.nil_append, List.forall_mem_cons] at hs
    exact .rejected hw .unprepared (hw.prepared hs.2.1)
  | rejected hx hv hp ha =>
    obtain rfl := Program.yields_query.1 hv
    obtain rfl := Program.yields_query.1 hp
    obtain rfl := Program.yields_query.1 ha
    have hw := waits_of_expects hx
    simp only [List.cons_append, List.nil_append, List.forall_mem_cons] at hs
    exact .rejected hw .password ((hw.prepared hs.2.1).judged hs.2.2.1)
  | @accepted _ _ _ h₄ _ _ _ _ hx hv hp ha hadv =>
    obtain rfl := Program.yields_query.1 hv
    obtain rfl := Program.yields_query.1 hp
    obtain rfl := Program.yields_query.1 ha
    have hw := waits_of_expects hx
    simp only [List.cons_append, List.nil_append, List.forall_mem_cons] at hs
    have hw₂ := (hw.prepared hs.2.1).judged hs.2.2.1
    show StepTurn n passwordStep s ([_, _, _] ++ h₄) outcome s'
    exact stepTurn_of_advanced hw .password hw₂ hadv hs.2.2.2

theorem stepTurn_of_token {n : UInt32} {configuration : Configuration} {p : Parameters}
    {s s' : Session} {h : List (Exchange calls)} {outcome : StepOutcome}
    (ht : TokenTaken ⟨consulting, configuration⟩ p s h outcome s')
    (hs : ∀ e ∈ h, Steady n e) : StepTurn n deviceStep s h outcome s' := by
  cases ht with
  | outOfOrder hx => exact .outOfOrder hx
  | rejected hx ha =>
    obtain rfl := Program.yields_query.1 ha
    have hw := waits_of_expects hx
    exact .rejected hw .device (hw.judged (hs _ List.mem_cons_self))
  | accepted hx ha hadv =>
    obtain rfl := Program.yields_query.1 ha
    have hw := waits_of_expects hx
    rw [List.forall_mem_append] at hs
    have hw₁ := hw.judged (hs.1 _ List.mem_cons_self)
    exact stepTurn_of_advanced hw .device hw₁ hadv hs.2

/-- Every submission under a steady method is one of these turns. -/
theorem stepTurn_of_submit {n : UInt32} {configuration : Configuration} {submission : Submission}
    {s s' : Session} {h : List (Exchange calls)} {outcome : StepOutcome}
    (hy : ((Flow.mk consulting configuration).submit submission s).Yields h (outcome, s'))
    (hs : ∀ e ∈ h, Steady n e) : StepTurn n submission.step s h outcome s' := by
  cases submission with
  | credentials c p => exact stepTurn_of_credentials (submitCredentials_yields hy) hs
  | token p => exact stepTurn_of_token (submitToken_yields hy) hs

theorem Submission.step_cases (submission : Submission) :
    submission.step = passwordStep ∨ submission.step = deviceStep := by
  cases submission with
  | credentials c p => exact .inl rfl
  | token p => exact .inr rfl

end TwoStepLogin.Login
