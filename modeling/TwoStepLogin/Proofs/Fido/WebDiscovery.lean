import TwoStepLogin.Fido.Remote
import TwoStepLogin.Proofs.Effect.Relayed
import TwoStepLogin.Proofs.Fido.Attempts

/-!
# Finding a configuration on the web

A server on the web is asked for its configuration with one request per attempt. What the reply to a
request is worth is decided twice: when it is read, and when the fault that reading it gave is
classified. Taken together, a connection that gives no answer and an overloaded server are waited out,
and every other reply ends the search.

A reply that breaks off is not waited out if its status was a success, though it is the connection
that failed: the search ends as if the body had arrived and were no configuration.

* `Fido.Passing` — replies that are waited out;
* `Fido.Judged` — what the last reply of a search means;
* `Fido.web_discovery_follows_replies` — the whole search.
-/

set_option autoImplicit false

namespace TwoStepLogin.Fido

open Web (Reply Url)

/-- The status of a reply, if it came so far. -/
def statusOf? : Reply → Option UInt16
  | .complete status _ => some status
  | .cutOff status => some status
  | _ => none

/-- A connection without an answer, or an overloaded server. -/
def Passing (reply : Reply) : Prop := statusOf? reply = none ∨ statusOf? reply = some 503

/-- What the reply to the last attempt means, given the number of the attempt and of all there may
be. -/
inductive Judged (attempts attempt : Nat) : Reply → Except Discovery.Failure Metadata → Prop where
  | loaded {status : UInt16} {body : List UInt8} {metadata : Metadata} :
      Web.isSuccess status = true →
      (Utf8.decodeString? body).bind Metadata.read? = some metadata →
      Judged attempts attempt (.complete status body) (.ok metadata)
  | noMetadata {status : UInt16} {body : List UInt8} : Web.isSuccess status = true →
      (Utf8.decodeString? body).bind Metadata.read? = none →
      Judged attempts attempt (.complete status body) (.error (.fatal attempt undecodable))
  | brokenOff {status : UInt16} : Web.isSuccess status = true →
      Judged attempts attempt (.cutOff status) (.error (.fatal attempt undecodable))
  | declined {reply : Reply} {status : UInt16} {message : String} :
      statusOf? reply = some status → Web.isSuccess status = false → status ≠ 503 →
      Judged attempts attempt reply (.error (.fatal attempt (.status status message)))
  | exhausted {reply : Reply} {fault : Fault} : Passing reply → attempt = attempts →
      Judged attempts attempt reply (.error (.retriesExhausted attempt fault))

theorem not_passing_of_isSuccess {reply : Reply} {status : UInt16}
    (hstatus : statusOf? reply = some status) (hs : Web.isSuccess status = true) :
    ¬ Passing reply := by
  rintro (h | h)
  · rw [hstatus] at h
    cases h
  · rw [hstatus] at h
    cases h
    cases hs

namespace Judged

variable {attempts attempt : Nat} {status : UInt16} {v : Except Discovery.Failure Metadata}

/-- No reply that is waited out is judged before the last attempt. -/
theorem last_of_passing {reply : Reply} (h : Judged attempts attempt reply v)
    (hp : Passing reply) : attempt = attempts := by
  cases h with
  | loaded hs _ => exact absurd hp (not_passing_of_isSuccess rfl hs)
  | noMetadata hs _ => exact absurd hp (not_passing_of_isSuccess rfl hs)
  | brokenOff hs => exact absurd hp (not_passing_of_isSuccess rfl hs)
  | declined hstatus _ h503 =>
    obtain h | h := hp
    · rw [hstatus] at h
      cases h
    · rw [hstatus] at h
      exact absurd (Option.some.inj h) h503
  | exhausted _ hall => exact hall

/-- A configuration that arrives is found. -/
theorem eq_ok {body : List UInt8} {metadata : Metadata}
    (h : Judged attempts attempt (.complete status body) v) (hs : Web.isSuccess status = true)
    (hread : (Utf8.decodeString? body).bind Metadata.read? = some metadata) : v = .ok metadata := by
  cases h with
  | loaded _ hread' => rw [Option.some.inj (hread.symm.trans hread')]
  | noMetadata _ hread' => cases hread.symm.trans hread'
  | declined hstatus hfails _ =>
    cases hstatus
    cases hs.symm.trans hfails
  | exhausted hp _ => exact absurd hp (not_passing_of_isSuccess rfl hs)

/-- A success that breaks off ends the search. -/
theorem eq_fatal (h : Judged attempts attempt (.cutOff status) v)
    (hs : Web.isSuccess status = true) : v = .error (.fatal attempt undecodable) := by
  cases h with
  | brokenOff _ => rfl
  | declined hstatus hfails _ =>
    cases hstatus
    cases hs.symm.trans hfails
  | exhausted hp _ => exact absurd hp (not_passing_of_isSuccess rfl hs)

end Judged

/-! ## One reply -/

section

variable {url : Url} {reply : Reply} {fault : Fault}

/-- The faults that a reply may be read as. -/
theorem readReply_error {read? : String → Option Metadata}
    (h : readReply url read? reply = .error fault) :
    (statusOf? reply = none ∧ fault.isRetryable = true) ∨
      (∃ status, statusOf? reply = some status ∧ Web.isSuccess status = false ∧
        ∃ message, fault = .status status message) ∨
      fault = undecodable ∧ ((∃ status, reply = .cutOff status ∧ Web.isSuccess status = true) ∨
        ∃ status body, reply = .complete status body ∧ Web.isSuccess status = true ∧
          (Utf8.decodeString? body).bind read? = none) := by
  cases reply with
  | refused => cases h; exact .inl ⟨rfl, rfl⟩
  | closed => cases h; exact .inl ⟨rfl, rfl⟩
  | garbled => cases h; exact .inl ⟨rfl, rfl⟩
  | complete status body =>
    rw [readReply] at h
    split at h
    · rename_i hs
      split at h
      · cases h
      · rename_i hnone
        cases h
        exact .inr (.inr ⟨rfl, .inr ⟨status, body, rfl, hs, hnone⟩⟩)
    · rename_i hs
      cases h
      exact .inr (.inl ⟨status, rfl, Bool.eq_false_iff.2 hs, _, rfl⟩)
  | cutOff status =>
    rw [readReply] at h
    cases h
    split
    · rename_i hs
      exact .inr (.inr ⟨rfl, .inl ⟨status, rfl, hs⟩⟩)
    · rename_i hs
      exact .inr (.inl ⟨status, rfl, Bool.eq_false_iff.2 hs, _, rfl⟩)

theorem readReply_ok {metadata : Metadata}
    (h : readReply url Metadata.read? reply = .ok metadata) :
    ∃ status body, reply = .complete status body ∧ Web.isSuccess status = true ∧
      (Utf8.decodeString? body).bind Metadata.read? = some metadata := by
  cases reply with
  | refused => cases h
  | closed => cases h
  | garbled => cases h
  | cutOff status => cases h
  | complete status body =>
    rw [readReply] at h
    split at h
    · rename_i hs
      split at h
      · rename_i hsome
        cases h
        exact ⟨status, body, rfl, hs, hsome⟩
      · cases h
    · cases h

theorem isRetryable_status {status : UInt16} {message : String} :
    (Fault.status status message).isRetryable = true ↔ status = 503 := by
  simp [Fault.isRetryable, Fault.isServiceUnavailable]

/-- The faults that may pass are those of replies that are waited out. -/
theorem passing_of_isRetryable {read? : String → Option Metadata}
    (h : readReply url read? reply = .error fault) (hr : fault.isRetryable = true) :
    Passing reply := by
  obtain ⟨hnone, -⟩ | ⟨status, hstatus, -, message, rfl⟩ | ⟨rfl, -⟩ := readReply_error h
  · exact .inl hnone
  · rw [isRetryable_status] at hr
    exact .inr (hr ▸ hstatus)
  · cases hr

/-- The last answer of a search means what its reply means. -/
theorem judged_of_ended {attempts attempt left : Nat} {v : Except Discovery.Failure Metadata}
    (hleft : attempt + left = attempts)
    (h : Discovery.Ended attempt left (readReply url Metadata.read? reply) v) :
    Judged attempts attempt reply v := by
  generalize hanswer : readReply url Metadata.read? reply = answer at h
  cases h with
  | loaded _ metadata =>
    obtain ⟨status, body, rfl, hs, hread⟩ := readReply_ok hanswer
    exact .loaded hs hread
  | @fatal _ fault hr =>
    obtain ⟨-, hr'⟩ | ⟨status, hstatus, hs, message, rfl⟩ | ⟨rfl, hbody⟩ := readReply_error hanswer
    · rw [hr'] at hr
      cases hr
    · refine .declined hstatus hs fun h503 => ?_
      rw [isRetryable_status.2 h503] at hr
      cases hr
    · obtain ⟨status, rfl, hs⟩ | ⟨status, body, rfl, hs, hread⟩ := hbody
      · exact .brokenOff hs
      · exact .noMetadata hs hread
  | exhausted hr => exact .exhausted (passing_of_isRetryable hanswer hr) hleft

end

/-! ## The search -/

/-- A request for the configuration and its reply. -/
def requested (target : Url) (reply : Reply) : Exchange Web.network :=
  ⟨.exchange (.get target), reply⟩

/-- A pause, as the network sees it. -/
def pausedFor (policy : RetryPolicy) : Exchange Web.network := ⟨.pause policy.delay, ()⟩

/-- Requests whose replies are waited out, with a pause behind each. -/
def waitedOut (policy : RetryPolicy) (target : Url) (replies : List Reply) :
    List (Exchange Web.network) :=
  replies.flatMap fun reply => [requested target reply, pausedFor policy]

section

variable {policy : RetryPolicy} {url : String} {target : Url} {d d' : Directory}
  {seen : List (Exchange Web.network)}

theorem send_of_isRequestable {α : Type} {read? : String → Option α}
    (hsend : target.requested.isRequestable = true) :
    send (.get target) read? =
      .ask (I := Web.network) (.exchange (.get target)) fun reply =>
        .done (readReply target read? reply) := if_pos hsend

theorem send_of_not_isRequestable {α : Type} {read? : String → Option α}
    (hsend : target.requested.isRequestable = false) :
    send (.get target) read? = .done (.error (unrequestable target)) :=
  if_neg fun h => Bool.false_ne_true (hsend.symm.trans h)

theorem fetchMetadata_yields (hparse : Url.parse url = .ok target)
    {answer : Except Fault Metadata} :
    (Call.fetchMetadata url).remote.Yields seen answer ↔
      (send (.get target) Metadata.read?).Yields seen answer := by
  have hendpoint : parseEndpoint url = .ok target := by
    rw [parseEndpoint, hparse]
  rw [Call.remote, hendpoint]
  rfl

/-- A fetch makes one request. -/
theorem fetch_relayed (hparse : Url.parse url = .ok target)
    (hsend : target.requested.isRequestable = true) {answer : Except Fault Metadata}
    (hy : (Login.online.handle (.fido (.fetchMetadata url)) d).Yields seen (answer, d')) :
    ∃ reply, seen = [requested target reply] ∧ answer = readReply target Metadata.read? reply ∧
      d' = d := by
  obtain ⟨_, h₁, h₂, rfl, hremote, rfl, he⟩ := Program.yields_bind.1 hy
  cases he
  rw [fetchMetadata_yields hparse, send_of_isRequestable hsend] at hremote
  obtain ⟨reply, _, rfl, rfl, rfl⟩ := hremote
  exact ⟨reply, rfl, rfl, rfl⟩

/-- An address that cannot be requested is answered for without a request. -/
theorem fetch_unsent (hparse : Url.parse url = .ok target)
    (hsend : target.requested.isRequestable = false) {answer : Except Fault Metadata}
    (hy : (Login.online.handle (.fido (.fetchMetadata url)) d).Yields seen (answer, d')) :
    seen = [] ∧ answer = .error (unrequestable target) ∧ d' = d := by
  obtain ⟨_, h₁, h₂, rfl, hremote, rfl, he⟩ := Program.yields_bind.1 hy
  cases he
  rw [fetchMetadata_yields hparse, send_of_not_isRequestable hsend] at hremote
  obtain ⟨rfl, rfl⟩ := hremote
  exact ⟨rfl, rfl, rfl⟩

/-- A pause stays a pause. -/
theorem pause_relayed {milliseconds : UInt64}
    (hy : (Login.online.handle (.pause milliseconds) d).Yields seen ((), d')) :
    seen = [⟨.pause milliseconds, ()⟩] ∧ d' = d := by
  obtain ⟨_, h₁, h₂, rfl, ⟨_, _, rfl, rfl, rfl⟩, rfl, he⟩ := Program.yields_bind.1 hy
  cases he
  exact ⟨rfl, rfl⟩

/-- Fetches that met faults which may pass are requests whose replies are waited out. -/
theorem waited_relayed (hparse : Url.parse url = .ok target)
    (hsend : target.requested.isRequestable = true) {faults : List Fault}
    (hfaults : ∀ fault ∈ faults, fault.isRetryable = true)
    {rest : List (Exchange Login.surroundings)}
    (hr : Login.online.Relays (Discovery.waited policy url faults ++ rest) d seen d') :
    ∃ replies later, seen = waitedOut policy target replies ++ later ∧
      replies.length = faults.length ∧ (∀ reply ∈ replies, Passing reply) ∧
      Login.online.Relays rest d later d' := by
  induction faults generalizing seen with
  | nil => exact ⟨[], seen, rfl, rfl, fun _ hreply => (nomatch hreply), hr⟩
  | cons fault faults ih =>
    obtain ⟨hfault, hfaults⟩ := List.forall_mem_cons.1 hfaults
    cases hr with
    | cons hfetch hr =>
      obtain ⟨reply, rfl, hreply, rfl⟩ := fetch_relayed hparse hsend hfetch
      cases hr with
      | cons hpause hr =>
        obtain ⟨rfl, rfl⟩ := pause_relayed hpause
        obtain ⟨replies, later, rfl, hlength, hpassing, hrest⟩ := ih hfaults hr
        refine ⟨reply :: replies, later, rfl, ?_, ?_, hrest⟩
        · rw [List.length_cons, List.length_cons, hlength]
        · exact List.forall_mem_cons.2 ⟨passing_of_isRetryable hreply.symm hfault, hpassing⟩

/-- If nothing can be requested, only the pauses are left. -/
theorem waited_unsent (hparse : Url.parse url = .ok target)
    (hsend : target.requested.isRequestable = false) {faults : List Fault}
    {rest : List (Exchange Login.surroundings)}
    (hr : Login.online.Relays (Discovery.waited policy url faults ++ rest) d seen d') :
    ∃ later, seen = List.replicate faults.length (pausedFor policy) ++ later ∧
      Login.online.Relays rest d later d' := by
  induction faults generalizing seen with
  | nil => exact ⟨seen, rfl, hr⟩
  | cons fault faults ih =>
    cases hr with
    | cons hfetch hr =>
      obtain ⟨rfl, -, rfl⟩ := fetch_unsent hparse hsend hfetch
      cases hr with
      | cons hpause hr =>
        obtain ⟨rfl, rfl⟩ := pause_relayed hpause
        obtain ⟨later, rfl, hrest⟩ := ih hr
        exact ⟨later, rfl, hrest⟩

theorem last_relayed (hparse : Url.parse url = .ok target)
    (hsend : target.requested.isRequestable = true) {answer : Except Fault Metadata}
    (hr : Login.online.Relays [Discovery.fetched url answer] d seen d') :
    ∃ reply, seen = [requested target reply] ∧ answer = readReply target Metadata.read? reply := by
  cases hr with
  | cons hfetch hnothing =>
    obtain ⟨reply, rfl, hreply, rfl⟩ := fetch_relayed hparse hsend hfetch
    cases hnothing
    exact ⟨reply, rfl, hreply⟩

theorem last_unsent (hparse : Url.parse url = .ok target)
    (hsend : target.requested.isRequestable = false) {answer : Except Fault Metadata}
    (hr : Login.online.Relays [Discovery.fetched url answer] d seen d') :
    seen = [] ∧ answer = .error (unrequestable target) := by
  cases hr with
  | cons hfetch hnothing =>
    obtain ⟨rfl, hanswer, rfl⟩ := fetch_unsent hparse hsend hfetch
    cases hnothing
    exact ⟨rfl, hanswer⟩

end

/-- The search at an address that can be requested makes one request per attempt. Every reply but
the last is waited out, and the last one decides. -/
theorem discover_relayed {policy : RetryPolicy} {serverUri : String} {target : Url}
    {d d' : Directory} {seen : List (Exchange Web.network)} {v : Except Discovery.Failure Metadata}
    (hparse : Url.parse (metadataUrl serverUri) = .ok target)
    (hsend : target.requested.isRequestable = true)
    (hy : ((discover policy serverUri).interpret Login.online d).Yields seen (v, d')) :
    ∃ passed last, seen = waitedOut policy target passed ++ [requested target last] ∧
      (∀ reply ∈ passed, Passing reply) ∧ passed.length < policy.attempts ∧
      Judged policy.attempts (passed.length + 1) last v := by
  obtain ⟨h, hdiscover, hr⟩ := Program.yields_interpret.1 hy
  obtain ⟨faults, answer, left, rfl, hfaults, hleft, hend⟩ := discover_yields hdiscover
  obtain ⟨passed, later, rfl, hlength, hpassing, hlater⟩ :=
    waited_relayed hparse hsend hfaults hr
  obtain ⟨last, rfl, hlast⟩ := last_relayed hparse hsend hlater
  refine ⟨passed, last, rfl, hpassing, by omega, ?_⟩
  rw [hlast, ← hlength] at hend
  exact judged_of_ended (by omega) hend

/-- The search at any other address runs out of attempts without a request. -/
theorem discover_unsent {policy : RetryPolicy} {serverUri : String} {target : Url}
    {d d' : Directory} {seen : List (Exchange Web.network)} {v : Except Discovery.Failure Metadata}
    (hparse : Url.parse (metadataUrl serverUri) = .ok target)
    (hsend : target.requested.isRequestable = false)
    (hy : ((discover policy serverUri).interpret Login.online d).Yields seen (v, d')) :
    seen = List.replicate (policy.attempts - 1) (pausedFor policy) ∧
      v = .error (.retriesExhausted policy.attempts (unrequestable target)) := by
  obtain ⟨h, hdiscover, hr⟩ := Program.yields_interpret.1 hy
  obtain ⟨faults, answer, left, rfl, hfaults, hleft, hend⟩ := discover_yields hdiscover
  obtain ⟨later, rfl, hlater⟩ := waited_unsent hparse hsend hr
  obtain ⟨rfl, rfl⟩ := last_unsent hparse hsend hlater
  cases hend with
  | fatal _ hstays => cases hstays
  | exhausted =>
    have hall : policy.attempts = faults.length + 1 := by omega
    rw [hall]
    exact ⟨List.append_nil _, rfl⟩

/-- Whatever the network does, a search ends. It makes one request per attempt, waits out replies
that are no answer or come from an overloaded server while attempts remain, and ends with the first
other one. -/
theorem web_discovery_follows_replies {σ : Type} (policy : RetryPolicy) (serverUri : String)
    {target : Url} (hparse : Url.parse (metadataUrl serverUri) = .ok target)
    (network : Responder Web.network σ) (w : σ) (d : Directory) :
    let o := ((discover policy serverUri).interpret Login.online d).run network w
    (target.requested.isRequestable = true →
      ∃ passed last, o.exchanges = waitedOut policy target passed ++ [requested target last] ∧
        (∀ reply ∈ passed, Passing reply) ∧ passed.length < policy.attempts ∧
        Judged policy.attempts (passed.length + 1) last o.value.1) ∧
    (target.requested.isRequestable = false →
      o.exchanges = List.replicate (policy.attempts - 1) (pausedFor policy) ∧
        o.value.1 = .error (.retriesExhausted policy.attempts (unrequestable target))) := by
  intro o
  have hy := Program.yields_run network ((discover policy serverUri).interpret Login.online d) w
  exact ⟨fun hsend => discover_relayed hparse hsend hy, fun hsend => discover_unsent hparse hsend hy⟩

/-- Replies given one after the other, and refusals after them. -/
def scripted : Responder Web.network (List Reply) where
  respond
    | .exchange _, [] => (.refused, [])
    | .exchange _, reply :: later => (reply, later)
    | .pause _, later => ((), later)

/-- Where a server on this machine publishes its configuration. -/
def loopback : Url :=
  ⟨"http", some ⟨"", none, .ipv4 2130706433, some 8080⟩, "/.well-known/fido-u2f-configuration", none,
    none⟩

theorem parse_loopback : Url.parse (metadataUrl "http://127.0.0.1:8080") = .ok loopback := by
  have h : (Url.parse (metadataUrl "http://127.0.0.1:8080")).toOption = some loopback := by
    decide +kernel
  cases hparse : Url.parse (metadataUrl "http://127.0.0.1:8080") with
  | error fault =>
    rw [hparse] at h
    cases h
  | ok target =>
    rw [hparse] at h
    cases h
    rfl

theorem isRequestable_loopback : loopback.requested.isRequestable = true := by decide +kernel

/-- A configuration. -/
def sampleMetadata : Metadata := ⟨"1", "issuer", "https://r.example", "https://a.example"⟩

/-- Its text. -/
def sampleBody : List UInt8 := Utf8.encodeString sampleMetadata.toJson.compact

theorem read?_sampleBody :
    (Utf8.decodeString? sampleBody).bind Metadata.read? = some sampleMetadata := by
  decide +kernel

/-- The reply of an exchange. -/
def replyOf? : Exchange Web.network → Option Reply
  | ⟨.exchange _, reply⟩ => some reply
  | ⟨.pause _, _⟩ => none

/-- Whatever a program asks, it gets the replies of a script in their order. -/
theorem scripted_replies {α : Type} (p : Program Web.network α) (script : List Reply) {n : Nat}
    {got said : Reply} (hgot : ((p.run scripted script).exchanges.filterMap replyOf?)[n]? = some got)
    (hsaid : script[n]? = some said) : got = said := by
  induction p generalizing script n with
  | done a => cases hgot
  | note entry p ih => exact ih script hgot hsaid
  | ask question next ih =>
    cases question with
    | pause _ => exact ih () script hgot hsaid
    | exchange _ =>
      cases script with
      | nil => cases hsaid
      | cons reply later =>
        cases n with
        | zero =>
          cases hgot
          cases hsaid
          rfl
        | succ n => exact ih reply later hgot hsaid

theorem replies_waitedOut (policy : RetryPolicy) (target : Url) (passed : List Reply) (last : Reply) :
    (waitedOut policy target passed ++ [requested target last]).filterMap replyOf? =
      passed ++ [last] := by
  induction passed with
  | nil => rfl
  | cons reply passed ih => exact congrArg (reply :: ·) ih

/-- An overloaded server on this machine is waited out, and its configuration is found after all. -/
theorem overloaded_loopback_is_waited_out :
    let o := ((discover ⟨2, 0⟩ "http://127.0.0.1:8080").interpret Login.online .empty).run scripted
      [.complete 503 [], .complete 200 sampleBody]
    o.value.1 = .ok sampleMetadata := by
  intro o
  obtain ⟨passed, last, hseen, hpassed, hlength, hjudged⟩ :=
    (web_discovery_follows_replies ⟨2, 0⟩ "http://127.0.0.1:8080" parse_loopback scripted
      [.complete 503 [], .complete 200 sampleBody] .empty).1 isRequestable_loopback
  have hreplies (n : Nat) (got said : Reply) : (passed ++ [last])[n]? = some got →
      [Reply.complete 503 [], .complete 200 sampleBody][n]? = some said → got = said := by
    rw [← replies_waitedOut ⟨2, 0⟩ loopback, ← hseen]
    exact scripted_replies _ _
  match passed with
  | [] =>
    obtain rfl : last = .complete 503 [] := hreplies 0 _ _ rfl rfl
    cases hjudged.last_of_passing (.inr rfl)
  | [first] =>
    obtain rfl : last = .complete 200 sampleBody := hreplies 1 _ _ rfl rfl
    exact hjudged.eq_ok rfl read?_sampleBody
  | _ :: _ :: passed =>
    have htwo : passed.length + 2 < 2 := hlength
    omega

/-- A reply that breaks off ends the search, whatever attempts are left and whatever would have
followed. -/
theorem broken_off_reply_ends_search (policy : RetryPolicy) (serverUri : String) {target : Url}
    (hparse : Url.parse (metadataUrl serverUri) = .ok target)
    (hsend : target.requested.isRequestable = true) {status : UInt16}
    (hs : Web.isSuccess status = true) (later : List Reply) (d : Directory) :
    let o := ((discover policy serverUri).interpret Login.online d).run scripted
      (.cutOff status :: later)
    o.exchanges = [requested target (.cutOff status)] ∧ o.value.1 = .error (.fatal 1 undecodable) := by
  intro o
  obtain ⟨passed, last, hseen, hpassed, -, hjudged⟩ :=
    discover_relayed hparse hsend (Program.yields_run scripted _ _)
  have hfirst (first : Reply) (hgot : (passed ++ [last])[0]? = some first) :
      first = .cutOff status := by
    rw [← replies_waitedOut policy target, ← hseen] at hgot
    exact scripted_replies _ (.cutOff status :: later) hgot rfl
  cases passed with
  | cons first passed =>
    obtain rfl := hfirst first rfl
    exact absurd (hpassed _ List.mem_cons_self) (not_passing_of_isSuccess rfl hs)
  | nil =>
    obtain rfl := hfirst last rfl
    exact ⟨hseen, hjudged.eq_fatal hs⟩

/-- So a configuration is missed that the second of two attempts would have found. -/
theorem broken_off_loopback_is_not_waited_out :
    let o := ((discover ⟨2, 0⟩ "http://127.0.0.1:8080").interpret Login.online .empty).run scripted
      [.cutOff 200, .complete 200 sampleBody]
    o.exchanges = [requested loopback (.cutOff 200)] ∧ o.value.1 = .error (.fatal 1 undecodable) :=
  broken_off_reply_ends_search ⟨2, 0⟩ "http://127.0.0.1:8080" parse_loopback isRequestable_loopback rfl
    [.complete 200 sampleBody] .empty

end TwoStepLogin.Fido
