import TwoStepLogin.Account.Directory
import TwoStepLogin.Effect.Program
import TwoStepLogin.Fido.Call

/-!
# What a login depends on

* `Login.Question` — queries to the user directory, calls to the FIDO server, and pauses;
* `Login.surroundings` — the interface made of them;
* `Login.directory`, `Login.fido`, `Login.pause` — programs that put one question.
-/

set_option autoImplicit false

namespace TwoStepLogin.Login

/-- Everything a login may ask for. -/
inductive Question where
  | directory (query : Directory.Query)
  | fido (call : Fido.Call)
  | pause (milliseconds : UInt64)
  deriving DecidableEq, Repr

/-- The type of the answers. -/
def Question.Answer : Question → Type
  | .directory query => query.Answer
  | .fido call => call.Answer
  | .pause _ => Unit

/-- The parties around a login. -/
def surroundings : Interface := ⟨Question, Question.Answer⟩

/-- A computation in these surroundings. -/
abbrev Action (α : Type) := Program surroundings α

/-- Ask the directory. -/
def directory (query : Directory.Query) : Action query.Answer :=
  Program.ask (I := surroundings) (.directory query) .done

/-- Call the FIDO server. -/
def fido (call : Fido.Call) : Action call.Answer :=
  Program.ask (I := surroundings) (.fido call) .done

/-- Wait. -/
def pause (milliseconds : UInt64) : Action Unit :=
  Program.ask (I := surroundings) (.pause milliseconds) .done

end TwoStepLogin.Login
