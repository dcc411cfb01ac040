import TwoStepLogin.Charset.Decode
import TwoStepLogin.Host.MediaType
import TwoStepLogin.Web.Form

/-!
# Forms in requests

* `Host.FormFault` — why a body is not accepted as a form;
* `Host.readForm` — the fields of a body, judged by its content type first.
-/

set_option autoImplicit false

namespace TwoStepLogin.Host

/-- Why a body is not accepted as a form. -/
inductive FormFault where
  | contentType
  | tooLarge (size : Nat)
  | malformed
  deriving DecidableEq, Repr

/-- Greatest size of a form in bytes. -/
def formLimit : Nat := 16384

/-- Status of the answer to it. -/
def FormFault.status : FormFault → UInt16
  | .contentType => 415
  | .tooLarge _ => 413
  | .malformed => 400

/-- Wording of a fault. -/
def FormFault.message : FormFault → String
  | .contentType => "Content type error."
  | .tooLarge size =>
    "URL encoded payload is larger (" ++ toString size ++ " bytes) than allowed (limit: " ++
      toString formLimit ++ " bytes)."
  | .malformed => "Encoding error."

/-- The content type of forms. -/
def formType : List Char := "application/x-www-form-urlencoded".toList

/-- Whether a character may stand in a header. -/
def isHeaderChar (c : Char) : Bool := c == '\t' || (0x20 ≤ c.toNat && c.toNat ≤ 0x7E)

/-- The charset of a form's content type, none if it is not the content type of a form. -/
def formCharset? (contentType : String) : Option Charset :=
  let cs := contentType.toList
  if !cs.all isHeaderChar then none
  else if (cs.takeWhile (· != ';')).map Char.toLower ≠ formType then none
  else
    match MediaType.parameters? ((cs.dropWhile (· != ';')).drop 1) with
    | none => none
    | some parameters =>
      match MediaType.charset? parameters with
      | none => some .utf8
      | some label => Charset.ofLabel? label

/-- The fields of a body in a charset. In UTF-8 no body is malformed. -/
def readFields (charset : Charset) (body : List UInt8) : Except FormFault (List (String × String)) :=
  if charset = .utf8 then .ok (Web.Form.decode body)
  else
    match charset.decode? body with
    | none => .error .malformed
    | some cs => .ok (Web.Form.decode (Utf8.encode cs))

/-- The fields of a body. -/
def readForm (contentType : Option String) (body : List UInt8) :
    Except FormFault (List (String × String)) :=
  match contentType.bind formCharset? with
  | none => .error .contentType
  | some charset =>
    if formLimit < body.length then .error (.tooLarge body.length) else readFields charset body

end TwoStepLogin.Host
