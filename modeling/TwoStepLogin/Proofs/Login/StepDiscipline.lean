import TwoStepLogin.Proofs.Login.StepTurns

/-!
# The order of steps

Whatever the method is, a flow takes a session through the steps one at a time and in order.

* `Login.OnlyPassword`, `Login.OnlyDevice`, `Login.entry` — the calls before, after and at the
  passage from the password to the device;
* `Login.Phase` — the invariant: how the calls of a run so far and the session belong together;
* `Login.DeviceAfterPassword`, `Login.AllAccepted` — what the calls of a run tell;
* `Login.flow_keeps_step_order` — the order of steps, for every method and every run.
-/

set_option autoImplicit false

namespace TwoStepLogin.Login

/-! ## Runs -/

/-- Only the password was judged so far. -/
def OnlyPassword (cs : List StepCall) : Prop := ∀ step ok, .judged step ok ∈ cs → step = passwordStep

/-- Nothing is called for the password step, and no step after the device step is judged. -/
def OnlyDevice (cs : List StepCall) : Prop :=
  ∀ c ∈ cs, c.step ≠ passwordStep ∧ ∀ step ok, c = .judged step ok → step = deviceStep

/-- The calls with which a run reaches the device step. -/
def entry : List StepCall := [.judged passwordStep true, .prepared deviceStep true]

/-- How the calls of a run and the session that it leaves belong together. -/
inductive Phase (n : UInt32) : List StepCall → Session → Prop where
  | password {cs : List StepCall} {s : Session} : OnlyPassword cs →
      (n ≤ passwordStep → .judged passwordStep true ∉ cs) → Waits passwordStep s → Phase n cs s
  /-- There is no second step. -/
  | done {cs : List StepCall} {s : Session} : OnlyPassword cs → n ≤ passwordStep →
      .judged passwordStep true ∈ cs →
      s.step = deviceStep → s.completed = true → Phase n cs s
  | device {front rest : List StepCall} {s : Session} : OnlyPassword front → OnlyDevice rest →
      ¬n ≤ passwordStep → (n ≤ deviceStep → .judged deviceStep true ∉ rest) →
      Waits deviceStep s → Phase n (front ++ (entry ++ rest)) s
  | both {front rest : List StepCall} {s : Session} : OnlyPassword front → OnlyDevice rest →
      ¬n ≤ passwordStep → n ≤ deviceStep → .judged deviceStep true ∈ rest →
      s.step = deviceStep + 1 → s.completed = true → Phase n (front ++ (entry ++ rest)) s
  /-- There is a third step, which nobody can submit. -/
  | stranded {front rest : List StepCall} {s : Session} : OnlyPassword front → OnlyDevice rest →
      ¬n ≤ deviceStep → Waits (deviceStep + 1) s → Phase n (front ++ (entry ++ rest)) s

theorem onlyPassword_append {cs more : List StepCall} :
    OnlyPassword (cs ++ more) ↔ OnlyPassword cs ∧ OnlyPassword more := by
  simp only [OnlyPassword, List.mem_append]
  grind

theorem onlyDevice_append {cs more : List StepCall} :
    OnlyDevice (cs ++ more) ↔ OnlyDevice cs ∧ OnlyDevice more := by
  simp only [OnlyDevice, List.mem_append]
  grind

theorem Rejecting.password_calls {cs : List StepCall} (h : Rejecting passwordStep cs) :
    OnlyPassword cs ∧ .judged passwordStep true ∉ cs := by
  generalize hk : passwordStep = k at h
  cases h with
  | unavailable => exact ⟨nofun, nofun⟩
  | unprepared => simp [OnlyPassword]
  | password => simp [OnlyPassword]
  | device => cases hk

theorem Rejecting.device_calls {cs : List StepCall} (h : Rejecting deviceStep cs) :
    OnlyDevice cs ∧ .judged deviceStep true ∉ cs := by
  generalize hk : deviceStep = k at h
  cases h with
  | unavailable => cases hk
  | unprepared => cases hk
  | password => cases hk
  | device => exact ⟨by simp [OnlyDevice, StepCall.step, passwordStep, deviceStep], by simp⟩

theorem Accepting.password_calls {cs : List StepCall} (h : Accepting passwordStep cs) :
    cs = [.prepared passwordStep true, .judged passwordStep true] := by
  generalize hk : passwordStep = k at h
  cases h with
  | password => rfl
  | device => cases hk

theorem Accepting.device_calls {cs : List StepCall} (h : Accepting deviceStep cs) :
    cs = [.judged deviceStep true] := by
  generalize hk : deviceStep = k at h
  cases h with
  | password => cases hk
  | device => rfl

/-- The calls behind an accepted password, whatever becomes of the second step. -/
theorem onlyPassword_accepted (ok : Bool) :
    OnlyPassword ([.prepared passwordStep true, .judged passwordStep true] ++
      [.prepared (passwordStep + 1) ok]) := by
  simp [OnlyPassword]

/-- The calls behind an accepted response, whatever becomes of the step after it. -/
theorem onlyDevice_accepted (ok : Bool) :
    OnlyDevice ([.judged deviceStep true] ++ [.prepared (deviceStep + 1) ok]) := by
  simp [OnlyDevice, StepCall.step, passwordStep, deviceStep]

/-- A session that waits for a password. -/
theorem Phase.at_password {n : UInt32} {cs : List StepCall} {s : Session} (hp : Phase n cs s)
    (hw : Waits passwordStep s) :
    OnlyPassword cs ∧ (n ≤ passwordStep → .judged passwordStep true ∉ cs) := by
  cases hp with
  | password ho hj _ => exact ⟨ho, hj⟩
  | done _ _ _ _ hc => exact absurd hc hw.not_completed
  | device _ _ _ _ hw' => cases hw.unique hw'
  | both _ _ _ _ _ _ hc => exact absurd hc hw.not_completed
  | stranded _ _ _ hw' => cases hw.unique hw'

/-- A session that waits for a device. -/
theorem Phase.at_device {n : UInt32} {cs : List StepCall} {s : Session} (hp : Phase n cs s)
    (hw : Waits deviceStep s) :
    ∃ front rest, cs = front ++ (entry ++ rest) ∧ OnlyPassword front ∧ OnlyDevice rest ∧
      ¬n ≤ passwordStep ∧ (n ≤ deviceStep → .judged deviceStep true ∉ rest) := by
  cases hp with
  | password _ _ hw' => cases hw.unique hw'
  | done _ _ _ _ hc => exact absurd hc hw.not_completed
  | device hf hr hn hj _ => exact ⟨_, _, rfl, hf, hr, hn, hj⟩
  | both _ _ _ _ _ _ hc => exact absurd hc hw.not_completed
  | stranded _ _ _ hw' => cases hw.unique hw'

theorem Phase.password_step {n : UInt32} {cs : List StepCall} {s s' : Session}
    {h : List (Exchange calls)} {outcome : StepOutcome} (hp : Phase n cs s)
    (ht : StepTurn n passwordStep s h outcome s') : Phase n (cs ++ stepCalls h) s' := by
  cases ht with
  | outOfOrder _ => simpa using hp
  | rejected hw hr hw' =>
    obtain ⟨ho, hj⟩ := hp.at_password hw
    obtain ⟨ho', hj'⟩ := hr.password_calls
    refine .password (onlyPassword_append.2 ⟨ho, ho'⟩) (fun hn hm => ?_) hw'
    exact (List.mem_append.1 hm).elim (hj hn) hj'
  | @completed _ _ lead ok hw ha hn hcs hstep hdone =>
    obtain ⟨ho, -⟩ := hp.at_password hw
    obtain rfl := ha.password_calls
    rw [hcs]
    exact .done (onlyPassword_append.2 ⟨ho, onlyPassword_accepted ok⟩) hn (by simp) hstep hdone
  | advanced hw ha hn hcs hw' =>
    obtain ⟨ho, -⟩ := hp.at_password hw
    obtain rfl := ha.password_calls
    have hentry : cs ++ ([.prepared passwordStep true, .judged passwordStep true] ++
        [.prepared (passwordStep + 1) true]) =
        (cs ++ [.prepared passwordStep true]) ++ (entry ++ []) := by
      simp [entry, passwordStep, deviceStep]
    rw [hcs, hentry]
    exact .device (onlyPassword_append.2 ⟨ho, by simp [OnlyPassword]⟩) nofun hn
      (fun _ => List.not_mem_nil) hw'
  | unprepared hw ha hn hcs hw' =>
    obtain ⟨ho, -⟩ := hp.at_password hw
    obtain rfl := ha.password_calls
    rw [hcs]
    exact .password (onlyPassword_append.2 ⟨ho, onlyPassword_accepted false⟩)
      (fun h => absurd h hn) hw'

theorem Phase.device_step {n : UInt32} {cs : List StepCall} {s s' : Session}
    {h : List (Exchange calls)} {outcome : StepOutcome} (hp : Phase n cs s)
    (ht : StepTurn n deviceStep s h outcome s') : Phase n (cs ++ stepCalls h) s' := by
  cases ht with
  | outOfOrder _ => simpa using hp
  | rejected hw hr hw' =>
    obtain ⟨front, rest, rfl, hf, hd, hn, hj⟩ := hp.at_device hw
    obtain ⟨hd', hj'⟩ := hr.device_calls
    rw [List.append_assoc, List.append_assoc]
    refine .device hf (onlyDevice_append.2 ⟨hd, hd'⟩) hn (fun hn hm => ?_) hw'
    exact (List.mem_append.1 hm).elim (hj hn) hj'
  | @completed _ _ lead ok hw ha hn hcs hstep hdone =>
    obtain ⟨front, rest, rfl, hf, hd, hn', -⟩ := hp.at_device hw
    obtain rfl := ha.device_calls
    rw [hcs, List.append_assoc, List.append_assoc]
    exact .both hf (onlyDevice_append.2 ⟨hd, onlyDevice_accepted ok⟩) hn' hn (by simp) hstep hdone
  | advanced hw ha hn hcs hw' =>
    obtain ⟨front, rest, rfl, hf, hd, -, -⟩ := hp.at_device hw
    obtain rfl := ha.device_calls
    rw [hcs, List.append_assoc, List.append_assoc]
    exact .stranded hf (onlyDevice_append.2 ⟨hd, onlyDevice_accepted true⟩) hn hw'
  | unprepared hw ha hn hcs hw' =>
    obtain ⟨front, rest, rfl, hf, hd, hn', -⟩ := hp.at_device hw
    obtain rfl := ha.device_calls
    rw [hcs, List.append_assoc, List.append_assoc]
    exact .device hf (onlyDevice_append.2 ⟨hd, onlyDevice_accepted false⟩) hn'
      (fun h => absurd h hn) hw'

/-- One submission keeps calls and session together. -/
theorem Phase.step {n k : UInt32} {cs : List StepCall} {s s' : Session} {h : List (Exchange calls)}
    {outcome : StepOutcome} (hp : Phase n cs s) (hk : k = passwordStep ∨ k = deviceStep)
    (ht : StepTurn n k s h outcome s') : Phase n (cs ++ stepCalls h) s' := by
  rcases hk with rfl | rfl
  · exact hp.password_step ht
  · exact hp.device_step ht

/-- Calls and session belong together after every run. -/
theorem phase_of_played {n : UInt32} {configuration : Configuration} {s s' : Session}
    {turns : List (Turn calls Submission Session StepOutcome)}
    (hplay : Played (Flow.mk consulting configuration).submit s turns s')
    (hs : ∀ t ∈ turns, ∀ e ∈ t.exchanges, Steady n e)
    (hstart : Waits passwordStep s) :
    Phase n (stepCalls (exchangesOf turns)) s' := by
  induction hplay with
  | nil => exact .password nofun (fun _ => List.not_mem_nil) hstart
  | @snoc turns t _ hy ih =>
    rw [List.forall_mem_append] at hs
    have ht := stepTurn_of_submit hy (hs.2 t List.mem_cons_self)
    have hnext := (ih hs.1).step t.command.step_cases ht
    simpa using hnext

/-! ## The order of steps -/

/-- An element that is not in the first part of a list stands in the second. -/
theorem split_of_notMem {α : Type} {b : α} {front rest pre post : List α} (hb : b ∉ front)
    (h : front ++ rest = pre ++ b :: post) : ∃ mid, pre = front ++ mid ∧ rest = mid ++ b :: post := by
  rcases List.append_eq_append_iff.1 h with ⟨mid, rfl, hrest⟩ | ⟨tail, rfl, htail⟩
  · exact ⟨mid, rfl, hrest⟩
  · cases tail with
    | nil => exact ⟨[], by simp, htail.symm⟩
    | cons x tail =>
      obtain ⟨rfl, -⟩ := List.cons.inj htail
      exact absurd (List.mem_append_right pre List.mem_cons_self) hb

theorem OnlyPassword.notMem {cs : List StepCall} (ho : OnlyPassword cs) {step : UInt32} {ok : Bool}
    (hstep : step ≠ passwordStep) : .judged step ok ∉ cs := fun hm => hstep (ho _ _ hm)

/-- Judgements of later steps come after the calls with which the device step is reached. -/
theorem notMem_front_entry {front : List StepCall} (hf : OnlyPassword front) {step : UInt32}
    {ok : Bool} (hstep : step ≠ passwordStep) : .judged step ok ∉ front ++ entry := by
  rw [List.mem_append, not_or]
  exact ⟨hf.notMem hstep, by simp [entry, hstep]⟩

/-- A device is judged only after the password, and then the password no more. -/
def DeviceAfterPassword (cs : List StepCall) : Prop :=
  ∀ pre ok post, cs = pre ++ .judged deviceStep ok :: post →
    ∃ front rest, pre = front ++ .judged passwordStep true :: .prepared deviceStep true :: rest ∧
      ∀ c ∈ rest ++ post, c.step ≠ passwordStep

theorem deviceAfterPassword_of_entry {front rest : List StepCall} (hf : OnlyPassword front)
    (hr : OnlyDevice rest) : DeviceAfterPassword (front ++ (entry ++ rest)) := by
  intro pre ok post he
  rw [← List.append_assoc] at he
  obtain ⟨mid, rfl, rfl⟩ := split_of_notMem (notMem_front_entry hf (by decide)) he
  refine ⟨front, mid, by simp [entry], fun c hc => ?_⟩
  rcases List.mem_append.1 hc with hc | hc
  · exact (hr c (List.mem_append_left _ hc)).1
  · exact (hr c (List.mem_append_right _ (List.mem_cons_of_mem _ hc))).1

theorem Phase.deviceAfterPassword {n : UInt32} {cs : List StepCall} {s : Session}
    (hp : Phase n cs s) : DeviceAfterPassword cs := by
  have hnone : OnlyPassword cs → DeviceAfterPassword cs := by
    rintro ho pre ok post rfl
    exact absurd (List.mem_append_right pre List.mem_cons_self) (ho.notMem (by decide))
  cases hp with
  | password ho _ _ => exact hnone ho
  | done ho _ _ _ _ => exact hnone ho
  | device hf hr _ _ _ => exact deviceAfterPassword_of_entry hf hr
  | both hf hr _ _ _ _ _ => exact deviceAfterPassword_of_entry hf hr
  | stranded hf hr _ _ => exact deviceAfterPassword_of_entry hf hr

/-- Every step that a method of `n` steps has was judged well; the first one always counts. -/
def AllAccepted (n : UInt32) (cs : List StepCall) : Prop :=
  ∀ i, i = passwordStep ∨ passwordStep ≤ i ∧ i ≤ n → .judged i true ∈ cs

theorem mem_front_entry_rest {front rest : List StepCall} (hf : OnlyPassword front)
    {step : UInt32} {ok : Bool} (hstep : step ≠ passwordStep)
    (hm : .judged step ok ∈ front ++ (entry ++ rest)) : .judged step ok ∈ rest := by
  rw [← List.append_assoc] at hm
  exact (List.mem_append.1 hm).resolve_left (notMem_front_entry hf hstep)

/-- No step after the device step is ever judged. -/
theorem not_allAccepted_of_lt {n : UInt32} {front rest : List StepCall} (hf : OnlyPassword front)
    (hr : OnlyDevice rest) (hn : ¬n ≤ deviceStep) : ¬AllAccepted n (front ++ (entry ++ rest)) := by
  intro hall
  have hthird : deviceStep + 1 ≤ n := by
    rw [UInt32.not_le, UInt32.lt_iff_toNat_lt] at hn
    rw [UInt32.le_iff_toNat_le]
    exact hn
  have hm := mem_front_entry_rest hf (by decide) (hall (deviceStep + 1) (.inr ⟨by decide, hthird⟩))
  exact absurd ((hr _ hm).2 _ _ rfl) (by decide)

theorem deviceStep_le {n : UInt32} (hn : ¬n ≤ passwordStep) : deviceStep ≤ n := by
  rw [UInt32.not_le, UInt32.lt_iff_toNat_lt] at hn
  rw [UInt32.le_iff_toNat_le]
  exact hn

/-- A session is completed as soon as every step was judged well, and not before. -/
theorem Phase.completed_iff {n : UInt32} {cs : List StepCall} {s : Session} (hp : Phase n cs s) :
    s.completed = true ↔ AllAccepted n cs := by
  cases hp with
  | password ho hj hw =>
    refine iff_of_false hw.not_completed fun hall => ?_
    by_cases hn : n ≤ passwordStep
    · exact hj hn (hall _ (.inl rfl))
    · exact ho.notMem (by decide) (hall deviceStep (.inr ⟨by decide, deviceStep_le hn⟩))
  | done _ hn hj _ hc =>
    refine iff_of_true hc ?_
    rintro i (rfl | ⟨hi, hin⟩)
    · exact hj
    · obtain rfl := UInt32.le_antisymm hi (UInt32.le_trans hin hn)
      exact hj
  | device hf hr hn hj hw =>
    refine iff_of_false hw.not_completed fun hall => ?_
    by_cases hd : n ≤ deviceStep
    · have hm := hall deviceStep (.inr ⟨by decide, deviceStep_le hn⟩)
      exact hj hd (mem_front_entry_rest hf (by decide) hm)
    · exact not_allAccepted_of_lt hf hr hd hall
  | both hf hr hn hd hj _ hc =>
    refine iff_of_true hc ?_
    have hfirst : StepCall.judged passwordStep true ∈ entry := List.mem_cons_self
    rintro i (rfl | ⟨hi, hin⟩)
    · exact List.mem_append_right _ (List.mem_append_left _ hfirst)
    · by_cases hone : i ≤ passwordStep
      · obtain rfl := UInt32.le_antisymm hi hone
        exact List.mem_append_right _ (List.mem_append_left _ hfirst)
      · obtain rfl := UInt32.le_antisymm (deviceStep_le hone) (UInt32.le_trans hin hd)
        exact List.mem_append_right _ (List.mem_append_right _ hj)
  | stranded hf hr hd hw =>
    exact iff_of_false hw.not_completed (not_allAccepted_of_lt hf hr hd)

/-- With a third step, which nobody can submit, there is no end. -/
theorem Phase.not_completed {n : UInt32} {cs : List StepCall} {s : Session} (hp : Phase n cs s)
    (hn : deviceStep < n) : s.completed = false := by
  have hd : ¬n ≤ deviceStep := UInt32.not_le.2 hn
  cases hp with
  | password _ _ hw => exact hw.2
  | done _ hn' _ _ _ => exact absurd (UInt32.le_trans hn' (by decide)) hd
  | device _ _ _ _ hw => exact hw.2
  | both _ _ _ hn' _ _ _ => exact absurd hn' hd
  | stranded _ _ _ hw => exact hw.2

/-- The step of a session stays, or goes up by one with an answer that says so. -/
def OneStepAtATime (before : Session) (reply : StepOutcome) (after : Session) : Prop :=
  after.step = before.step ∧ (∃ step, reply = .failed step) ∨
    after.step.toNat = before.step.toNat + 1 ∧
      (reply = .completed ∨ ∃ page, reply = .nextStep after.step page)

/-- A submission out of order is refused, and nobody hears of it. -/
def RefusesOutOfOrder (t : Turn calls Submission Session StepOutcome) : Prop :=
  t.before.completed = true ∨ t.before.step ≠ t.command.step →
    t.reply = .failed t.command.step ∧ t.after = t.before ∧ t.exchanges = []

theorem StepTurn.oneStepAtATime {n k : UInt32} {s s' : Session} {h : List (Exchange calls)}
    {outcome : StepOutcome} (ht : StepTurn n k s h outcome s')
    (hk : k = passwordStep ∨ k = deviceStep) : OneStepAtATime s outcome s' := by
  have hnext : (k + 1).toNat = k.toNat + 1 := by
    rcases hk with rfl | rfl
    · rfl
    · rfl
  cases ht with
  | outOfOrder hx => exact .inl ⟨rfl, _, rfl⟩
  | rejected hw _ hw' => exact .inl ⟨hw'.1.trans hw.1.symm, _, rfl⟩
  | completed hw _ _ _ hstep _ =>
    refine .inr ⟨?_, .inl rfl⟩
    rw [hstep, hnext, hw.1]
  | advanced hw _ _ _ hw' =>
    refine .inr ⟨?_, .inr ⟨_, by rw [hw'.1]⟩⟩
    rw [hw'.1, hnext, hw.1]
  | unprepared hw _ _ _ hw' => exact .inl ⟨hw'.1.trans hw.1.symm, _, rfl⟩

/-- Whoever answers the calls of a method of `n` steps, and whatever is submitted: the step of the
session goes up by one at a time, submissions out of order have no effect, a device is judged only
after the password, and the login is completed as soon as every step was judged well. -/
theorem flow_keeps_step_order {σ : Type} {n : UInt32} {method : Responder calls σ}
    (hn : ∀ call w, Steady n ⟨call, (method.respond call w).1⟩) (configuration : Configuration)
    (submissions : List Submission) (id : String) (now : Instant) (w : σ) :
    let start := Session.start id now
    let turns := play (Flow.mk consulting configuration).submit method submissions start w
    let cs := stepCalls (exchangesOf turns)
    (∀ t ∈ turns, OneStepAtATime t.before t.reply t.after) ∧
      (∀ t ∈ turns, RefusesOutOfOrder t) ∧
      DeviceAfterPassword cs ∧
      ((leftAfter start turns).completed = true ↔ AllAccepted n cs) ∧
      (deviceStep < n → (leftAfter start turns).completed = false) := by
  intro start turns cs
  have hplay : Played (Flow.mk consulting configuration).submit start turns (leftAfter start turns) :=
    played_play _ _ _ _ _
  have hs : ∀ t ∈ turns, ∀ e ∈ t.exchanges, Steady n e := exchanges_play hn _ _ _ _
  have hstep : ∀ t ∈ turns, StepTurn n t.command.step t.before t.exchanges t.reply t.after := by
    intro t ht
    obtain ⟨_, _, _, _, hy⟩ := hplay.of_mem ht
    exact stepTurn_of_submit hy (hs t ht)
  have hphase : Phase n cs (leftAfter start turns) := phase_of_played hplay hs ⟨rfl, rfl⟩
  refine ⟨fun t ht => ?_, fun t ht hx => ?_, hphase.deviceAfterPassword, hphase.completed_iff,
    hphase.not_completed⟩
  · exact (hstep t ht).oneStepAtATime t.command.step_cases
  · obtain ⟨_, _, _, _, hy⟩ := hplay.of_mem ht
    exact submit_outOfOrder (Flow.expects_eq_false_iff.2 hx) hy

/-- Who agrees to everything, and has `n` steps. -/
def agreeing (n : UInt32) : Responder calls Unit where
  respond
    | .isValid _, w => (true, w)
    | .alternative _, w => ((none : Option String), w)
    | .prepare _ _ s _, w => ((true, s), w)
    | .authenticate _ _ _ s _, w => ((true, s), w)
    | .extraParameters _ _, w => ((none : Option (List String)), w)
    | .stepCount _, w => (n, w)
    | .page _ _, w => ("", w)
    | .logout _ _, w => (true, w)
    | .destroy _, w => (true, w)

theorem agreeing_steady (n : UInt32) (call : Consultation) (w : Unit) :
    Steady n ⟨call, ((agreeing n).respond call w).1⟩ := by
  cases call with
  | prepare _ _ s _ => exact ⟨rfl, rfl⟩
  | authenticate _ _ _ s _ => exact ⟨rfl, rfl⟩
  | stepCount _ => exact rfl
  | _ => trivial

/-- Password and device, both accepted. -/
theorem agreeing_login_completes :
    let configuration : Configuration := ⟨.empty, ⟨"1.0", "issuer", "enroll", "authenticate"⟩⟩
    let start := Session.start "session" ⟨0⟩
    let turns := play (Flow.mk consulting configuration).submit (agreeing 2)
      [.credentials ⟨"alice", "secret"⟩ .empty, .token .empty] start ()
    (leftAfter start turns).completed = true ∧ AllAccepted 2 (stepCalls (exchangesOf turns)) := by
  intro configuration start turns
  have hdone : (leftAfter start turns).completed = true := rfl
  have h := flow_keeps_step_order (agreeing_steady 2) configuration
    [.credentials ⟨"alice", "secret"⟩ .empty, .token .empty] "session" ⟨0⟩ ()
  exact ⟨hdone, h.2.2.2.1.1 hdone⟩

end TwoStepLogin.Login
