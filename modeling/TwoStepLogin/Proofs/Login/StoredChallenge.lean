import Mathlib
import TwoStepLogin.Proofs.Json.ParsedValues
import TwoStepLogin.Proofs.Login.ShownChallenge

/-!
# A challenge is stored without loss

A session remembers a challenge as text. Challenges come from texts themselves, those that the server
sent, and none of them is lost on the way, however deep it nests and whatever characters it holds;
only floating-point numbers are left out here. The text is the compact one, and it is the same
whether the challenge came from the server's text or from a session.

* `Session.parsed_challenge_is_kept`.
-/

set_option autoImplicit false

namespace TwoStepLogin.Session

/-- Whatever was parsed, with whole numbers, is answered as it was parsed; what is stored is the
shortest text of the challenge; and the challenge read from that text is stored as that text. -/
theorem parsed_challenge_is_kept (s : Session) (w : Workflow) {text : String} {challenge : Json}
    (hparsed : Json.parse? text = some challenge) (hwhole : challenge.Whole) :
    (s.storeChallenge w challenge).pending = .of w challenge ∧
      (s.storeChallenge w challenge).get? (challengeKey w) = some challenge.compact ∧
      (∀ other, Json.parse? other = some challenge → challenge.compact.length ≤ other.length) ∧
      ∃ again, Json.parse? challenge.compact = some again ∧ ∀ (s' : Session) (w' : Workflow),
        (s'.storeChallenge w' again).get? (challengeKey w') = some challenge.compact := by
  have hfits : challenge.Fits Json.Parser.depthLimit := Json.parse?_fits hparsed hwhole
  refine ⟨s.pending_storeChallenge w hfits, s.get?_storeChallenge w challenge, ?_, ?_⟩
  · intro other hother
    exact Json.length_compact_le hother hwhole
  · refine ⟨challenge, Json.parse?_compact hfits, fun s' w' => ?_⟩
    exact s'.get?_storeChallenge w' challenge

/-- A text with white space, a name that repeats, escapes of every kind and the outermost numbers. -/
def roughText : String :=
  " \x7b\"b\": [ ], \"a\": [ 18446744073709551615, -9223372036854775808 ],\n" ++
    "\"b\": \"\\u001F\\/\\\"\\ud83d\\ude00\" \x7d"

/-- What it says. -/
def smoothChallenge : Json :=
  .object [
    ("a", .array [.number (.integer 18446744073709551615), .number (.integer (-9223372036854775808))]),
    ("b", .string "\x1f/\"😀")]

/-- The shortest way to say it. -/
def smoothText : String :=
  "\x7b\"a\":[18446744073709551615,-9223372036854775808],\"b\":\"\\u001f/\\\"😀\"\x7d"

theorem smoothChallenge_compact : smoothChallenge.compact = smoothText := by decide +kernel

/-- What the rough text says is shown, and kept as the smooth one. -/
theorem rough_text_is_kept :
    let stored := (start "session" ⟨0⟩).storeChallenge .enroll smoothChallenge
    Json.parse? roughText = some smoothChallenge ∧ stored.pending = .of .enroll smoothChallenge ∧
      stored.get? (challengeKey .enroll) = some smoothText := by
  have hparsed : Json.parse? roughText = some smoothChallenge := by cbv
  have hwhole : smoothChallenge.Whole := by
    refine .object (List.forall_mem_cons.2 ⟨.array ?_, List.forall_mem_singleton.2 (.string _)⟩)
    exact List.forall_mem_cons.2 ⟨.integer _, List.forall_mem_singleton.2 (.integer _)⟩
  obtain ⟨hpending, hstored, -⟩ :=
    parsed_challenge_is_kept (start "session" ⟨0⟩) .enroll hparsed hwhole
  exact ⟨hparsed, hpending, smoothChallenge_compact ▸ hstored⟩

end TwoStepLogin.Session
