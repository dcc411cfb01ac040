import TwoStepLogin.Host.Service

/-!
# Telling answers apart

A browser sees what became of a submission only in the text of the answer. No two kinds of answers
begin with the same characters, whatever values are filled in.

* `Host.opening` — the first characters of a text;
* `Host.opening_status` — they show the first letter of a status;
* `Host.opening_authenticated` and the like — the openings of the host's answers.
-/

set_option autoImplicit false

namespace TwoStepLogin.Host

open Json (Printer.render Printer.quoted Printer.renderMembers)

/-- The first characters of a text. -/
def opening (text : String) : List Char := text.toList.take 12

/-- An object begins with its first member. -/
theorem render_object_cons (name : String) (value : Json) (rest : List (String × Json)) :
    ∃ tail, Printer.render (.object ((name, value) :: rest)) =
      '{' :: (Printer.quoted name ++ ':' :: (Printer.render value ++ tail)) := by
  cases rest with
  | nil => exact ⟨['}'], by simp [Printer.render, Printer.renderMembers]⟩
  | cons m more =>
    exact ⟨',' :: (Printer.renderMembers (m :: more) ++ ['}']),
      by simp [Printer.render, Printer.renderMembers]⟩

theorem opening_object (name : String) (value : Json) (rest : List (String × Json)) :
    ∃ tail, opening (Json.object ((name, value) :: rest)).compact =
      ('{' :: (Printer.quoted name ++ ':' :: (Printer.render value ++ tail))).take 12 := by
  obtain ⟨tail, ht⟩ := render_object_cons name value rest
  exact ⟨tail, by rw [opening, Json.compact, String.toList_ofList, ht]⟩

/-- The opening of an answer with a status shows the first letter of its word. -/
theorem opening_status {word : String} {c : Char} (hw : (Printer.quoted word).take 2 = ['"', c])
    (rest : List (String × Json)) :
    opening (Json.object (("status", .string word) :: rest)).compact =
      ['{', '"', 's', 't', 'a', 't', 'u', 's', '"', ':', '"', c] := by
  obtain ⟨tail, ht⟩ := opening_object "status" (.string word) rest
  have hq : Printer.quoted word = ['"', c] ++ (Printer.quoted word).drop 2 := by
    rw [← hw, List.take_append_drop]
  rw [ht, Printer.render, hq]
  rfl

@[simp] theorem opening_nextStep (step : UInt32) (page : String) :
    opening (StepAnswer.nextStep step page).toJson.compact =
      ['{', '"', 's', 't', 'a', 't', 'u', 's', '"', ':', '"', 'n'] := by
  have hw : (Printer.quoted "next_step").take 2 = ['"', 'n'] := by decide
  exact opening_status hw _

@[simp] theorem opening_authenticated (user : Option String) :
    opening (StepAnswer.authenticated user).toJson.compact =
      ['{', '"', 's', 't', 'a', 't', 'u', 's', '"', ':', '"', 'a'] := by
  have hw : (Printer.quoted "authenticated").take 2 = ['"', 'a'] := by decide
  exact opening_status hw _

@[simp] theorem opening_failed (step : UInt32) :
    opening (StepAnswer.failed step).toJson.compact =
      ['{', '"', 's', 't', 'a', 't', 'u', 's', '"', ':', '"', 'f'] := by
  have hw : (Printer.quoted "failed").take 2 = ['"', 'f'] := by decide
  exact opening_status hw _

@[simp] theorem opening_pending (pending : Session.Pending) :
    opening pending.toJson.compact =
      ['{', '"', 'a', 'u', 't', 'h', '_', 'm', 'e', 't', 'h', 'o'] := by
  obtain ⟨tail, ht⟩ := opening_object "auth_method" (.ofText? (pending.workflow.map Workflow.name))
    [("registration_request", pending.registration.getD .null),
      ("authentication_request", pending.authentication.getD .null)]
  exact ht.trans rfl

theorem message_tooLarge (size : Nat) : ∃ rest, (FormFault.tooLarge size).message.toList =
    "URL encoded payload is larger (".toList ++ rest := by
  unfold FormFault.message
  rw [String.toList_append, String.toList_append, String.toList_append, String.toList_append,
    List.append_assoc, List.append_assoc, List.append_assoc]
  exact ⟨_, rfl⟩

/-- A refused form is answered by a plain sentence. -/
theorem opening_refusedForm (fault : FormFault) : (opening fault.message).head? ≠ some '{' := by
  cases fault with
  | contentType => decide
  | tooLarge size =>
    obtain ⟨rest, hr⟩ := message_tooLarge size
    rw [opening, hr]
    show some 'U' ≠ some '{'
    decide
  | malformed => decide

/-- What refuses a submission never lets anyone in. -/
theorem failed_ne_nextStep (step step' : UInt32) (page : String) :
    (StepAnswer.failed step).toJson.compact ≠ (StepAnswer.nextStep step' page).toJson.compact := by
  intro he
  have ho := congrArg opening he
  simp at ho

end TwoStepLogin.Host
