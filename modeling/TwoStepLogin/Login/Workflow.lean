/-!
# Device workflows

A user without a device enrols one; a user with a device authenticates by it.

* `Workflow` — which of the two, with its name and the reading of names;
* `UnknownWorkflow` — a name that is neither.
-/

set_option autoImplicit false

namespace TwoStepLogin

/-- What is done with the device. -/
inductive Workflow where
  | enroll
  | authenticate
  deriving DecidableEq, Repr

namespace Workflow

/-- The name under which a workflow is submitted and stored. -/
def name : Workflow → String
  | .enroll => "enroll"
  | .authenticate => "authenticate"

/-- The workflow of that name, letter for letter. -/
def ofName? (tag : String) : Option Workflow :=
  if tag = "enroll" then some .enroll
  else if tag = "authenticate" then some .authenticate
  else none

/-- The other workflow. -/
def other : Workflow → Workflow
  | .enroll => .authenticate
  | .authenticate => .enroll

@[simp] theorem ofName?_name (w : Workflow) : ofName? w.name = some w := by
  cases w <;> rfl

theorem ofName?_eq_some_iff {tag : String} {w : Workflow} : ofName? tag = some w ↔ tag = w.name := by
  constructor
  · intro h
    unfold ofName? at h
    split at h
    · cases h; assumption
    · split at h
      · cases h; assumption
      · cases h
  · rintro rfl
    exact ofName?_name w

end Workflow

/-- A name that belongs to no workflow. -/
structure UnknownWorkflow where
  tag : String
  deriving DecidableEq, Repr

/-- Wording of the complaint. -/
def UnknownWorkflow.message (unknown : UnknownWorkflow) : String :=
  "unknown authentication method: " ++ unknown.tag

/-- The workflow of that name, or the complaint about it. -/
def Workflow.read (tag : String) : Except UnknownWorkflow Workflow :=
  match Workflow.ofName? tag with
  | some w => .ok w
  | none => .error ⟨tag⟩

end TwoStepLogin
