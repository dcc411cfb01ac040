import Mathlib.Data.List.DropRight
import TwoStepLogin.Proofs.Effect.Replies
import TwoStepLogin.Proofs.Fido.Attempts
import TwoStepLogin.Proofs.Login.DeviceSteps

/-!
# A search ends at the first lasting answer

The attempts of a search against a stream of answers, one for each fetch. A fault that may pass by
itself is waited out as long as attempts are left; the first other answer ends the search, and with it
the number of fetches and of pauses is settled.

The number of an attempt fits into a word of 32 bits, as the number of allowed attempts does. A loop
that counts in such words never has to raise the largest one, since there is no attempt after the last.

* `Fido.MayPass` — an answer that is waited out;
* `Fido.streaming` — a server that gives the answers of a stream, one for each fetch;
* `Fido.FirstLasting` — the place of the first other answer among those that are looked at;
* `Fido.asked` — fetches with a pause between any two of them;
* `Fido.discoverInWords` — the search as a loop that counts in words;
* `Fido.search_ends_at_first_lasting_answer` — fetches, pauses and the result.
-/

set_option autoImplicit false

namespace TwoStepLogin.Fido

open Login (surroundings Question)

/-! ## The address -/

/-- What is dropped at the end are slashes. -/
theorem trimSlashes_append_replicate (cs : List Char) :
    ∃ slashes, cs = trimSlashes cs ++ List.replicate slashes '/' := by
  have hslashes : cs.reverse.takeWhile (fun c => c == '/') =
      List.replicate (cs.reverse.takeWhile fun c => c == '/').length '/' :=
    List.eq_replicate_of_mem fun c hc => by simpa using List.mem_takeWhile_imp hc
  refine ⟨(cs.reverse.takeWhile fun c => c == '/').length, ?_⟩
  rw [trimSlashes, ← List.reverse_replicate, ← hslashes, ← List.reverse_append,
    List.takeWhile_append_dropWhile, List.reverse_reverse]

/-- All of them are dropped. -/
theorem getLast?_trimSlashes (cs : List Char) : (trimSlashes cs).getLast? ≠ some '/' := by
  intro hlast
  rw [trimSlashes, List.getLast?_reverse] at hlast
  have hhead := List.head?_dropWhile_not (fun c => c == '/') cs.reverse
  rw [hlast] at hhead
  cases hhead

/-! ## The stream -/

/-- No response was produced, or the server was overloaded. -/
def MayPass (answer : Except Fault Metadata) : Prop :=
  (∃ text, answer = .error (.transport text)) ∨ ∃ text, answer = .error (.status 503 text)

theorem mayPass_error_iff {fault : Fault} : MayPass (.error fault) ↔ fault.isRetryable = true := by
  simp only [MayPass, Except.error.injEq, Fault.isRetryable_iff]

theorem not_mayPass_ok {metadata : Metadata} : ¬MayPass (.ok metadata) := by
  simp [MayPass]

/-- The number of fetches so far is kept; the `n`-th one gets the `n`-th result. -/
def streaming (results : Nat → Except Fault Metadata)
    (others : (question : Question) → question.Answer) : Responder surroundings Nat where
  respond
    | .fido (.fetchMetadata _), fetches => (results (fetches + 1), fetches + 1)
    | question, fetches => (others question, fetches)

/-- The `k`-th of `m` results does not pass, and all before it do. -/
structure FirstLasting (results : Nat → Except Fault Metadata) (m k : Nat) : Prop where
  one_le : 1 ≤ k
  le : k ≤ m
  passing : ∀ n, 1 ≤ n → n < k → MayPass (results n)
  lasting : ¬MayPass (results k)

/-- So many fetches, with a pause between any two of them. -/
def asked (policy : RetryPolicy) (url : String) (fetches : Nat) : List Question :=
  (List.replicate fetches (.fido (.fetchMetadata url))).intersperse (.pause policy.delay)

variable {policy : RetryPolicy} {url : String} {results : Nat → Except Fault Metadata}
  {others : (question : Question) → question.Answer} {faults : List Fault}
  {last : Except Fault Metadata} {n n' m k : Nat}

theorem questions_waited :
    (Discovery.waited policy url faults ++ [Discovery.fetched url last]).map Exchange.question =
      asked policy url (faults.length + 1) := by
  induction faults with
  | nil => rfl
  | cons fault faults ih =>
    exact congrArg (fun later => Question.fido (.fetchMetadata url) :: .pause policy.delay :: later) ih

/-- The faults of a conversation are the next results of the stream, and then comes the last one. -/
theorem results_of_replies (hfaults : ∀ fault ∈ faults, fault.isRetryable = true)
    (hr : (streaming results others).Replies n
      (Discovery.waited policy url faults ++ [Discovery.fetched url last]) n') :
    (∀ i, n < i → i ≤ n + faults.length → MayPass (results i)) ∧
      last = results (n + faults.length + 1) := by
  induction faults generalizing n with
  | nil => exact ⟨fun i hlt hle => absurd hle (Nat.not_le.2 hlt), hr.1⟩
  | cons fault faults ih =>
    obtain ⟨hfault, hfaults⟩ := List.forall_mem_cons.1 hfaults
    obtain ⟨hfetch, -, hr⟩ := hr
    have hfirst : results (n + 1) = .error fault := hfetch.symm
    -- The pause behind the fetch leaves the stream where it is.
    have hlater : (streaming results others).Replies (n + 1)
        (Discovery.waited policy url faults ++ [Discovery.fetched url last]) n' := hr
    obtain ⟨hpassing, hlast⟩ := ih hfaults hlater
    rw [List.length_cons]
    refine ⟨fun i hlt hle => ?_, ?_⟩
    · rcases Nat.eq_or_lt_of_le (Nat.succ_le_of_lt hlt) with rfl | hlt
      · rw [Nat.succ_eq_add_one, hfirst]
        exact mayPass_error_iff.2 hfault
      · exact hpassing i hlt (by omega)
    · rw [hlast, Nat.add_right_comm n 1, Nat.add_assoc n]

/-- The search looks at the results up to some place; all before it pass, and there it ends. -/
theorem discover_streaming (policy : RetryPolicy) (serverUri : String)
    (results : Nat → Except Fault Metadata) (others : (question : Question) → question.Answer) :
    let o := (discover policy serverUri).run (streaming results others) 0
    ∃ k left, 1 ≤ k ∧ k + left = policy.attempts ∧ (∀ n, 1 ≤ n → n < k → MayPass (results n)) ∧
      o.questions = asked policy (metadataUrl serverUri) k ∧
      Discovery.Ended k left (results k) o.value := by
  intro o
  obtain ⟨faults, last, left, hseen, hfaults, hleft, hend⟩ :=
    discover_yields (Program.yields_run (streaming results others) (discover policy serverUri) 0)
  have hr := Program.replies_run (streaming results others) (discover policy serverUri) 0
  rw [hseen] at hr
  obtain ⟨hpassing, rfl⟩ := results_of_replies hfaults hr
  refine ⟨faults.length + 1, left, Nat.succ_pos _, ?_, fun n hone hlt => ?_, ?_, ?_⟩
  · omega
  · exact hpassing n hone (by omega)
  · rw [Outcome.questions_eq, hseen, questions_waited]
  · rwa [Nat.zero_add] at hend

namespace Discovery.Ended

variable {attempt left : Nat} {answer : Except Fault Metadata} {v : Except Failure Metadata}

/-- Only after the last attempt a search ends with an answer that may pass. -/
theorem of_mayPass (hend : Ended attempt left answer v) (hpass : MayPass answer) :
    left = 0 ∧ ∃ fault, answer = .error fault ∧ v = .error (.retriesExhausted attempt fault) := by
  cases hend with
  | loaded _ _ => exact absurd hpass not_mayPass_ok
  | fatal _ hlasts => cases hlasts.symm.trans (mayPass_error_iff.1 hpass)
  | @exhausted fault _ => exact ⟨rfl, fault, rfl, rfl⟩

theorem of_not_mayPass (hend : Ended attempt left answer v) (hlasts : ¬MayPass answer) :
    (∀ metadata, answer = .ok metadata → v = .ok metadata) ∧
      ∀ fault, answer = .error fault → v = .error (.fatal attempt fault) := by
  cases hend with
  | loaded _ _ =>
    refine ⟨fun _ he => ?_, fun _ he => (nomatch he)⟩
    rw [Except.ok.inj he]
  | fatal _ _ =>
    refine ⟨fun _ he => (nomatch he), fun _ he => ?_⟩
    rw [Except.error.inj he]
  | exhausted hpass => exact absurd (mayPass_error_iff.2 hpass) hlasts

end Discovery.Ended

/-- A search through results of which all before some place pass ends at the first lasting one. -/
theorem FirstLasting.eq_of_ended (hk : FirstLasting results m k) {left : Nat}
    {v : Except Discovery.Failure Metadata} (hone : 1 ≤ n) (hleft : n + left = m)
    (hpassing : ∀ i, 1 ≤ i → i < n → MayPass (results i))
    (hend : Discovery.Ended n left (results n) v) : n = k := by
  rcases Nat.lt_trichotomy n k with hlt | heq | hgt
  · have hlast : left = 0 := (hend.of_mayPass (hk.passing n hone hlt)).1
    have hle := hk.le
    omega
  · exact heq
  · exact absurd (hpassing k hk.one_le hgt) hk.lasting

/-! ## Counting in words -/

theorem toNat_succ {word : UInt32} (hfits : word.toNat + 1 < UInt32.size) :
    (word + 1).toNat = word.toNat + 1 := by
  rw [UInt32.toNat_add]
  exact Nat.mod_eq_of_lt hfits

/-- All attempts, as a word. -/
theorem RetryPolicy.toNat_max (policy : RetryPolicy) :
    (max policy.maxAttempts 1).toNat = policy.attempts := by
  rw [RetryPolicy.attempts]
  change (if policy.maxAttempts ≤ 1 then 1 else policy.maxAttempts).toNat = _
  split
  · rename_i hle
    exact (Nat.max_eq_right (UInt32.le_iff_toNat_le.1 hle)).symm
  · rename_i hlt
    rw [UInt32.le_iff_toNat_le] at hlt
    exact (Nat.max_eq_left (Nat.le_of_not_le hlt)).symm

theorem RetryPolicy.attempts_lt (policy : RetryPolicy) : policy.attempts < UInt32.size :=
  policy.toNat_max ▸ UInt32.toNat_lt _

namespace Discovery

/-- The attempts from one number on, counted in words of 32 bits. What is done if the number does not
fit any more is given. -/
def countedFrom (overflow : Login.Action (Except Failure Metadata)) (policy : RetryPolicy)
    (url : String) (attempt : UInt32) : Login.Action (Except Failure Metadata) :=
  attemptOnce policy url attempt.toNat fun fault =>
    if max policy.maxAttempts 1 ≤ attempt then do
      Program.log (exhaustedRecord attempt.toNat fault)
      pure (.error (.retriesExhausted attempt.toNat fault))
    else do
      Program.log (retryRecord policy fault)
      Login.pause policy.delay
      if attempt.toNat + 1 < UInt32.size then countedFrom overflow policy url (attempt + 1)
      else overflow
  termination_by UInt32.size - attempt.toNat
  decreasing_by
    rw [toNat_succ ‹_›]
    omega

/-- As long as the number and the attempts left make up all attempts, the number fits. -/
theorem countedFrom_eq (overflow : Login.Action (Except Failure Metadata)) (policy : RetryPolicy)
    (url : String) {attempt : UInt32} {left : Nat}
    (hleft : attempt.toNat + left = policy.attempts) :
    countedFrom overflow policy url attempt = attemptsFrom policy url attempt.toNat left := by
  induction left generalizing attempt with
  | zero =>
    have hlast : max policy.maxAttempts 1 ≤ attempt := by
      rw [UInt32.le_iff_toNat_le, policy.toNat_max]
      omega
    rw [countedFrom, attemptsFrom]
    simp only [if_pos hlast]
  | succ left ih =>
    have hmore : ¬max policy.maxAttempts 1 ≤ attempt := by
      rw [UInt32.le_iff_toNat_le, policy.toNat_max]
      omega
    have hfits : attempt.toNat + 1 < UInt32.size := by
      have hword := policy.attempts_lt
      omega
    have hleft' : (attempt + 1).toNat + left = policy.attempts := by
      rw [toNat_succ hfits]
      omega
    have hnext := ih hleft'
    rw [toNat_succ hfits] at hnext
    rw [countedFrom, attemptsFrom]
    simp only [if_neg hmore, if_pos hfits, hnext]

end Discovery

/-- The whole search, counted in words. -/
def discoverInWords (overflow : Login.Action (Except Discovery.Failure Metadata))
    (policy : RetryPolicy) (serverUri : String) :
    Login.Action (Except Discovery.Failure Metadata) := do
  let url := metadataUrl serverUri
  Program.log (.info ("U2F. Downloading metadata from " ++ url))
  Discovery.countedFrom overflow policy url 1

/-- No number is ever raised beyond the largest word. -/
theorem discoverInWords_eq (overflow : Login.Action (Except Discovery.Failure Metadata))
    (policy : RetryPolicy) (serverUri : String) :
    discoverInWords overflow policy serverUri = discover policy serverUri := by
  have hpositive : 1 ≤ policy.attempts := Nat.le_max_right _ _
  have hleft : (1 : UInt32).toNat + (policy.attempts - 1) = policy.attempts :=
    Nat.add_sub_cancel' hpositive
  rw [discoverInWords, discover, Discovery.countedFrom_eq overflow policy _ hleft]
  rfl

/-- Whatever results a server gives, however many attempts are allowed and however long the pauses
are: let `m` be the number of attempts, at least one. If the `k`-th result is the first one that does
not pass, the search makes `k` fetches with one pause between any two of them, all from the address
without its slashes at the end, and gives the configuration or ends with the fault of the `k`-th result.
If there is none among the first `m`, it makes `m` fetches in the same way and ends with the last
fault. Counted in words of 32 bits it is the same search: no number is too large. -/
theorem search_ends_at_first_lasting_answer (policy : RetryPolicy) (serverUri : String)
    (results : Nat → Except Fault Metadata) (others : (question : Question) → question.Answer) :
    let m := max policy.maxAttempts.toNat 1
    let url := metadataUrl serverUri
    let o := (discover policy serverUri).run (streaming results others) 0
    (∃ base slashes, serverUri.toList = base ++ List.replicate slashes '/' ∧
      base.getLast? ≠ some '/' ∧
      url = String.ofList base ++ "/.well-known/fido-u2f-configuration") ∧
    (∀ k, FirstLasting results m k → o.questions = asked policy url k ∧
      (∀ metadata, results k = .ok metadata → o.value = .ok metadata) ∧
      ∀ fault, results k = .error fault → o.value = .error (.fatal k fault)) ∧
    ((∀ n, 1 ≤ n → n ≤ m → MayPass (results n)) → o.questions = asked policy url m ∧
      ∃ fault, results m = .error fault ∧ o.value = .error (.retriesExhausted m fault)) ∧
    ∀ overflow, discoverInWords overflow policy serverUri = discover policy serverUri := by
  intro m url o
  obtain ⟨n, left, hone, hleft, hpassing, hasked, hend⟩ :=
    discover_streaming policy serverUri results others
  refine ⟨?_, fun k hk => ?_, fun hall => ?_, fun overflow => discoverInWords_eq overflow _ _⟩
  · obtain ⟨slashes, hslashes⟩ := trimSlashes_append_replicate serverUri.toList
    exact ⟨trimSlashes serverUri.toList, slashes, hslashes, getLast?_trimSlashes _, rfl⟩
  · obtain rfl := hk.eq_of_ended hone hleft hpassing hend
    exact ⟨hasked, hend.of_not_mayPass hk.lasting⟩
  · have hle : n ≤ m := Nat.le.intro hleft
    obtain ⟨rfl, hresult⟩ := hend.of_mayPass (hall n hone hle)
    obtain rfl : n = m := hleft
    exact ⟨hasked, hresult⟩

/-- An overloaded server, then one that cannot be reached, and the given result from then on. -/
def settling (later : Except Fault Metadata) : Nat → Except Fault Metadata
  | 1 => .error (.status 503 "busy")
  | 2 => .error (.transport "reset")
  | _ => later

theorem firstLasting_settling {later : Except Fault Metadata} (hlater : ¬MayPass later)
    (hm : 3 ≤ m) : FirstLasting (settling later) m 3 where
  one_le := by decide
  le := hm
  passing
    | 1, _, _ => mayPass_error_iff.2 rfl
    | 2, _, _ => mayPass_error_iff.2 rfl
  lasting := hlater

/-- With the most attempts that can be allowed, the third result ends the search, be it a configuration
or not; with none allowed, one is made. -/
theorem settled_search_ends_at_third_result :
    let others (question : Question) : question.Answer := (Login.obliging.respond question ()).1
    let gone : Fault := .status 404 "gone"
    let metadata : Metadata := ⟨"1", "issuer", "https://r.example", "https://a.example"⟩
    let busy : Fault := .status 503 "busy"
    let fetch : Question :=
      .fido (.fetchMetadata "https://fido.example/.well-known/fido-u2f-configuration")
    let search (policy : RetryPolicy) (later : Except Fault Metadata) :=
      (discover policy "https://fido.example//").run (streaming (settling later) others) 0
    (search ⟨4294967295, 250⟩ (.error gone)).questions =
        [fetch, .pause 250, fetch, .pause 250, fetch] ∧
      (search ⟨4294967295, 250⟩ (.error gone)).value = .error (.fatal 3 gone) ∧
      (search ⟨4294967295, 250⟩ (.ok metadata)).value = .ok metadata ∧
      (search ⟨0, 250⟩ (.ok metadata)).questions = [fetch] ∧
      (search ⟨0, 250⟩ (.ok metadata)).value = .error (.retriesExhausted 1 busy) := by
  intro others gone metadata busy fetch search
  have hurl : metadataUrl "https://fido.example//" =
      "https://fido.example/.well-known/fido-u2f-configuration" := by decide +kernel
  have hgone := (search_ends_at_first_lasting_answer ⟨4294967295, 250⟩ "https://fido.example//"
    (settling (.error gone)) others).2.1 3
    (firstLasting_settling (fun hpass => nomatch mayPass_error_iff.1 hpass) (by decide))
  have hfound := (search_ends_at_first_lasting_answer ⟨4294967295, 250⟩ "https://fido.example//"
    (settling (.ok metadata)) others).2.1 3
    (firstLasting_settling not_mayPass_ok (by decide))
  obtain ⟨hasked, fault, hfault, hexhausted⟩ := (search_ends_at_first_lasting_answer ⟨0, 250⟩
    "https://fido.example//" (settling (.ok metadata)) others).2.2.1 fun
    | 1, _, _ => mayPass_error_iff.2 rfl
  obtain rfl : busy = fault := Except.error.inj hfault
  rw [hurl] at hgone hasked
  exact ⟨hgone.1, hgone.2.2 gone rfl, hfound.2.1 metadata rfl, hasked, hexhausted⟩

end TwoStepLogin.Fido
