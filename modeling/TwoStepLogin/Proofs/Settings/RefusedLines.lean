import TwoStepLogin.Proofs.Settings.Layers
import TwoStepLogin.Proofs.Settings.Overrides

/-!
# Lines that abort loading

The file of assignments is not checked before its variables are set, and the system aborts a program
that sets a variable without a name or with a NUL in it. So one line of the file is enough to abort
loading, whatever the environment and the settings files say; without such a line loading ends with
settings, with a failure at a settings file, or because the process has a logger already.

* `Settings.applyAssignments_eq_error_iff` — setting variables stops at the first that is refused;
* `Settings.readAssignments_eq_error_iff` — so reading the file stops at the first such line;
* `Settings.Settled` — how loading ends that is not aborted;
* `Settings.loading_aborts_at_refused_line` — when loading is aborted, and which variable is to blame.
-/

set_option autoImplicit false

namespace TwoStepLogin.Settings

open Text (splitOnce trimChars)

variable {tree : FileTree} {environment environment' : Environment} {name : String}

/-! ## Lines -/

/-- The name and the value that a line sets, whether or not the system takes them. -/
def assignment? (line : List Char) : Option (String × String) :=
  (splitOnce '=' line).map fun parts =>
    (String.ofList (trimChars parts.1), String.ofList (trimChars parts.2))

/-- The variable that a line sets. -/
def target? (line : List Char) : Option String := (assignment? line).map Prod.fst

theorem assignments_eq (text : String) :
    assignments text = (Text.lines text).filterMap assignment? := rfl

/-- The system refuses what a line sets just if the line is not acceptable. -/
theorem any_assignment? (line : List Char) :
    ((assignment? line).any fun pair => !isVariable pair.1 pair.2) = decide (¬Acceptable line) := by
  rw [assignment?]
  cases hcut : splitOnce '=' line with
  | none => simp [Acceptable, hcut]
  | some parts => simp [← isVariable_iff_acceptable hcut]

/-- A line that is not acceptable sets a variable. -/
theorem exists_target {line : List Char} (h : ¬Acceptable line) : ∃ name, target? line = some name := by
  have hany := any_assignment? line
  rw [decide_eq_true h, Option.any_eq_true] at hany
  obtain ⟨pair, hpair, -⟩ := hany
  exact ⟨pair.1, by rw [target?, hpair, Option.map_some]⟩

/-! ## Setting variables -/

/-- Setting variables stops at the first that the system refuses. -/
theorem applyAssignments_eq_error_iff {pairs : List (String × String)} :
    applyAssignments pairs environment = .error name ↔
      (pairs.find? fun pair => !isVariable pair.1 pair.2).map Prod.fst = some name := by
  induction pairs generalizing environment with
  | nil => simp [applyAssignments]
  | cons pair pairs ih =>
    rw [applyAssignments, List.find?_cons]
    cases isVariable pair.1 pair.2 with
    | true => simpa using ih
    | false => simp

/-- Reading the file of assignments stops at its first line that is not acceptable. -/
theorem readAssignments_eq_error_iff : readAssignments tree environment = .error name ↔
    ((assignmentLines tree).find? fun line => ¬Acceptable line).bind target? = some name := by
  rw [readAssignments, assignmentLines]
  cases tree.readText? assignmentsName with
  | none => simp
  | some text =>
    simp only [applyAssignments_eq_error_iff, assignments_eq, List.find?_filterMap, any_assignment?,
      Option.map_bind, Option.map_some, Option.getD_some]
    rfl

/-- If a line is not acceptable, reading stops. -/
theorem exists_readAssignments_eq_error {line : List Char} (hline : line ∈ assignmentLines tree)
    (h : ¬Acceptable line) (environment : Environment) :
    ∃ name, readAssignments tree environment = .error name := by
  have hfound : ((assignmentLines tree).find? fun line => ¬Acceptable line).isSome := by
    rw [List.find?_isSome]
    exact ⟨line, hline, decide_eq_true h⟩
  obtain ⟨first, hfirst⟩ := Option.isSome_iff_exists.1 hfound
  obtain ⟨name, hname⟩ := exists_target (by simpa using List.find?_some hfirst)
  refine ⟨name, readAssignments_eq_error_iff.2 ?_⟩
  rw [hfirst, Option.bind_some, hname]

/-! ## Loading -/

theorem ofFiles_cases (tree : FileTree) (paths : List String) :
    (∃ s, ofFiles tree paths = .ok s) ∨ FailsAtFile (ofFiles tree paths) := by
  by_cases husable : ∀ path ∈ paths.filter tree.holds, Usable tree path
  · obtain ⟨s, hs, -⟩ := ofFiles_of_usable husable
    exact .inl ⟨s, hs⟩
  · push Not at husable
    obtain ⟨path, hpath, hunusable⟩ := husable
    exact .inr (ofFiles_of_unusable hpath hunusable)

/-- Loading ends with settings or without any because of a settings file or of the logger; a logger is in
the way only where one is installed, and then there are no settings. -/
def Settled (tree : FileTree) (environment : Environment) (installed : Bool) : Prop :=
  (installed = false ∧ ∃ s, (load tree environment installed).outcome = .ok s) ∨
    FailsAtFile (load tree environment installed).outcome ∨
    ∃ h, (load tree environment installed).outcome = .error (.loggerInstalled h)

theorem Settled.ne_refused {installed : Bool} (h : Settled tree environment installed) (name : String) :
    (load tree environment installed).outcome ≠ .error (.refusedVariable name) := by
  intro hrefused
  simp [Settled, FailsAtFile, hrefused] at h

/-- Once the file of assignments has been read, only a settings file or a logger can make loading
fail. -/
theorem settled_of_readAssignments (h : readAssignments tree environment = .ok environment')
    (installed : Bool) : Settled tree environment installed := by
  rw [Settled, load_outcome h]
  obtain ⟨s, hs⟩ | hfails := ofFiles_cases tree (candidates environment')
  · rw [hs]
    cases installed with
    | false => exact .inl ⟨rfl, _, rfl⟩
    | true => exact .inr (.inr ⟨rfl, rfl⟩)
  · exact .inr (.inl ((hfails.inProcess installed).bind _))

theorem load_eq_refused_iff (installed : Bool) :
    (load tree environment installed).outcome = .error (.refusedVariable name) ↔
      readAssignments tree environment = .error name := by
  cases hread : readAssignments tree environment with
  | error refused => simp [load, hread]
  | ok environment' =>
    exact iff_of_false ((settled_of_readAssignments hread installed).ne_refused name) (by simp)

/-- Loading is aborted at the first line of the file of assignments with an equals sign that has
nothing but blanks before it, or a NUL in the line; the variable the line sets is refused. If there is
no such line, and only then, loading ends with settings or fails at a settings file, or at the logger
where one is installed. -/
theorem loading_aborts_at_refused_line (tree : FileTree) (environment : Environment) (installed : Bool) :
    (∀ name, (load tree environment installed).outcome = .error (.refusedVariable name) ↔
      ((assignmentLines tree).find? fun line => ¬Acceptable line).bind target? = some name) ∧
    ((∀ line ∈ assignmentLines tree, Acceptable line) ↔ Settled tree environment installed) := by
  refine ⟨fun name => (load_eq_refused_iff installed).trans readAssignments_eq_error_iff, fun h => ?_,
    fun h => ?_⟩
  · obtain ⟨environment', hread, -⟩ := readAssignments_of_acceptable tree environment h
    exact settled_of_readAssignments hread installed
  · intro line hline
    by_contra hrefused
    obtain ⟨name, hread⟩ := exists_readAssignments_eq_error hline hrefused environment
    exact h.ne_refused name ((load_eq_refused_iff installed).2 hread)

/-- A file of assignments with a value and no name before it. -/
def namelessLine : FileTree := .ofFiles [(assignmentsName, Utf8.encodeString "=x\n")]

/-- There are no settings files, so nothing stands in the way of the defaults; but loading is
aborted. -/
theorem nameless_line_aborts :
    (load namelessLine .empty).outcome = .error (.refusedVariable "") := by
  decide +kernel

end TwoStepLogin.Settings
