import TwoStepLogin.Proofs.Number.DecimalText
import TwoStepLogin.Proofs.Text.Blanks
import TwoStepLogin.Settings.Load

/-!
# What the environment overrides

The file of assignments goes before the environment of the process, and its last line for a variable
before earlier ones. A text is taken as it is, even an empty one; a number or a truth value only if
the text spells one of the type asked for, and otherwise the setting stays.

* `Settings.effective?` — the value of a variable, by the lines of the file and the environment;
* `Settings.isVariable_iff_acceptable` — which lines set variables that the system takes;
* `Settings.Decides` — what the value of a variable makes of one setting;
* `Settings.Overridden` — what the values of variables make of all settings;
* `Settings.overrides_follow_variables` — this is what loading does, and doing it again changes nothing.
-/

set_option autoImplicit false

namespace TwoStepLogin.Settings

open Text (splitOnce trimChars isBlank)

variable {environment : Environment} {name : String}

/-! ## Assignments -/

/-- What a line sets a variable to: the text behind the first equals sign, if the text before it is
the name; in both the blanks around them do not count. -/
def assigned? (name : String) (line : List Char) : Option String :=
  match splitOnce '=' line with
  | some (before, after) =>
    if String.ofList (trimChars before) = name then some (String.ofList (trimChars after)) else none
  | none => none

/-- The value of a variable: what the last line for it says, or the environment. -/
def effective? (lines : List (List Char)) (environment : Environment) (name : String) :
    Option String :=
  (lines.filterMap (assigned? name)).getLast?.or (environment.get? name)

/-- The lines of the file of assignments; none if the file is missing or unreadable. -/
def assignmentLines (tree : FileTree) : List (List Char) :=
  ((tree.readText? assignmentsName).map Text.lines).getD []

/-- Lines that set no variable the system refuses: with an equals sign in a line goes a name before
it, and there is no NUL in the line. -/
def Acceptable (line : List Char) : Prop :=
  ∀ before after, splitOnce '=' line = some (before, after) →
    (∃ c ∈ before, isBlank c = false) ∧ '\x00' ∉ line

instance : DecidablePred Acceptable := fun line =>
  match h : splitOnce '=' line with
  | some (before, _) =>
    decidable_of_iff (before.all isBlank = false ∧ line.contains '\x00' = false) (by
      simp [Acceptable, h])
  | none => .isTrue (by simp [Acceptable, h])

/-- The system takes what an acceptable line sets, and nothing else: only a blank name is trimmed to an
empty one, and trimming drops neither an equals sign nor a NUL. -/
theorem isVariable_iff_acceptable {line before after : List Char}
    (hcut : splitOnce '=' line = some (before, after)) :
    isVariable (String.ofList (trimChars before)) (String.ofList (trimChars after)) = true ↔
      Acceptable line := by
  have hacceptable : Acceptable line ↔ (∃ c ∈ before, isBlank c = false) ∧ '\x00' ∉ line := by
    simp [Acceptable, hcut]
  have hname : trimChars before ≠ [] ↔ ∃ c ∈ before, isBlank c = false := by
    simp [Text.trimChars_eq_nil_iff]
  have hequals : isBlank '=' = false := by decide
  have hnul : isBlank '\x00' = false := by decide
  obtain ⟨hline, hbefore⟩ := Text.splitOnce_eq_some hcut
  rw [hacceptable, ← hname, hline]
  simp [isVariable, Text.mem_trimChars_iff hequals, Text.mem_trimChars_iff hnul, hbefore, and_assoc]

/-- Variables that the system takes are set in order, so the last assignment to each counts. -/
theorem applyAssignments_of_forall {pairs : List (String × String)}
    (h : ∀ pair ∈ pairs, isVariable pair.1 pair.2 = true) (environment : Environment) :
    ∃ environment', applyAssignments pairs environment = .ok environment' ∧
      ∀ name, environment'.get? name = (pairs.filterMap fun pair =>
        if pair.1 = name then some pair.2 else none).getLast?.or (environment.get? name) := by
  induction pairs generalizing environment with
  | nil => exact ⟨environment, rfl, fun _ => rfl⟩
  | cons pair pairs ih =>
    obtain ⟨hpair, hpairs⟩ := List.forall_mem_cons.1 h
    obtain ⟨environment', happly, hget⟩ := ih hpairs (environment.set pair.1 pair.2)
    refine ⟨environment', ?_, fun name => ?_⟩
    · rw [applyAssignments, if_pos hpair, happly]
    · rw [hget, Attributes.get?_set, List.filterMap_cons]
      by_cases hname : pair.1 = name
      · rw [if_pos hname.symm, if_pos hname, List.getLast?_cons]
        cases (List.filterMap _ pairs).getLast? <;> rfl
      · rw [if_neg (Ne.symm hname), if_neg hname]

theorem filterMap_assignments (text name : String) :
    ((assignments text).filterMap fun pair => if pair.1 = name then some pair.2 else none) =
      (Text.lines text).filterMap (assigned? name) := by
  rw [assignments, List.filterMap_filterMap]
  refine List.filterMap_congr fun line _ => ?_
  rw [assigned?]
  cases splitOnce '=' line <;> rfl

/-- After the file of assignments has been read, variables have their values in effect. -/
theorem readAssignments_of_acceptable (tree : FileTree) (environment : Environment)
    (h : ∀ line ∈ assignmentLines tree, Acceptable line) :
    ∃ environment', readAssignments tree environment = .ok environment' ∧
      ∀ name, environment'.get? name = effective? (assignmentLines tree) environment name := by
  rw [readAssignments]
  cases htext : tree.readText? assignmentsName with
  | none =>
    refine ⟨environment, rfl, fun name => ?_⟩
    rw [assignmentLines, htext]
    rfl
  | some text =>
    have hlines : assignmentLines tree = Text.lines text := by rw [assignmentLines, htext]; rfl
    rw [hlines] at h ⊢
    have hpairs : ∀ pair ∈ assignments text, isVariable pair.1 pair.2 = true := by
      intro pair hpair
      obtain ⟨line, hline, hcut⟩ := List.mem_filterMap.1 hpair
      obtain ⟨⟨before, after⟩, hsplit, rfl⟩ := Option.map_eq_some_iff.1 hcut
      exact (isVariable_iff_acceptable hsplit).2 (h line hline)
    obtain ⟨environment', happly, hget⟩ := applyAssignments_of_forall hpairs environment
    refine ⟨environment', happly, fun name => ?_⟩
    rw [hget, effective?, filterMap_assignments]

/-! ## Overrides -/

/-- The value of a variable decides a setting: it becomes what the value spells, and stays where there
is no value or the value spells nothing. -/
def Decides {α : Type} (spells : String → α → Prop) (value : Option String) (old new : α) : Prop :=
  (∃ text, value = some text ∧ spells text new) ∨
    (∀ text x, value = some text → ¬ spells text x) ∧ new = old

theorem decides_override {α : Type} {spells : String → α → Prop} {read? : String → Option α}
    (hread : ∀ text x, read? text = some x ↔ spells text x) (environment : Environment)
    (name : String) (old : α) :
    Decides spells (environment.get? name) old (override environment name read? old) := by
  rw [override]
  cases hvalue : environment.get? name with
  | none => exact .inr ⟨fun _ _ h => (nomatch h), rfl⟩
  | some text =>
    rw [Option.bind_some]
    cases hx : read? text with
    | none =>
      refine .inr ⟨fun text' x h hspells => ?_, rfl⟩
      cases h
      rw [(hread text x).2 hspells] at hx
      cases hx
    | some x => exact .inl ⟨text, rfl, (hread text x).1 hx⟩

theorem override_some (environment : Environment) (name old : String) :
    override environment name some old = (environment.get? name).getD old := by
  rw [override, Option.bind_fun_some]

theorem override_override {α : Type} (environment : Environment) (name : String)
    (read? : String → Option α) (old : α) :
    override environment name read? (override environment name read? old) =
      override environment name read? old := by
  rw [override, override]
  cases (environment.get? name).bind read? <;> rfl

/-- The settings after the overrides, by the values of variables. -/
structure Overridden (value : String → Option String) (old new : Settings) : Prop where
  host : new.application.host = (value "HOST").getD old.application.host
  port : Decides (fun text x => Decimal.Unsigned text.toList x.toNat) (value "PORT")
    old.application.port new.application.port
  serverUri : new.server.serverUri = (value "U2F_SERVER_URI").getD old.server.serverUri
  applicationId :
    new.server.applicationId = (value "U2F_APPLICATION_ID").getD old.server.applicationId
  requestTimeoutSeconds : new.server.requestTimeoutSeconds = old.server.requestTimeoutSeconds
  maxAttempts : Decides (fun text x => Decimal.Unsigned text.toList x.toNat)
    (value "METADATA_MAX_ATTEMPTS") old.retry.maxAttempts new.retry.maxAttempts
  retryDelayMs : Decides (fun text x => Decimal.Unsigned text.toList x.toNat)
    (value "METADATA_RETRY_DELAY_MS") old.retry.retryDelayMs new.retry.retryDelayMs
  cookieSecure : Decides (fun text x => text = toString x) (value "SESSION_COOKIE_SECURE")
    old.logins.cookieSecure new.logins.cookieSecure
  loginTimeoutMinutes : Decides (fun text x => Decimal.Signed text.toList x.toInt)
    (value "LOGIN_TIMEOUT_MINUTES") old.logins.loginTimeoutMinutes new.logins.loginTimeoutMinutes
  level : new.logging.level = (value "RUST_LOG").getD old.logging.level
  users : new.users = old.users

theorem withEnvironment_overridden (s : Settings) (environment : Environment) :
    Overridden environment.get? s (s.withEnvironment environment) where
  host := override_some _ _ _
  port := decides_override (fun _ _ => Decimal.uint16?_eq_some_iff) _ _ _
  serverUri := override_some _ _ _
  applicationId := override_some _ _ _
  requestTimeoutSeconds := rfl
  maxAttempts := decides_override (fun _ _ => Decimal.uint32?_eq_some_iff) _ _ _
  retryDelayMs := decides_override (fun _ _ => Decimal.uint64?_eq_some_iff) _ _ _
  cookieSecure := decides_override (fun _ _ => Decimal.boolean?_eq_some_iff) _ _ _
  loginTimeoutMinutes := decides_override (fun _ _ => Decimal.int64?_eq_some_iff) _ _ _
  level := override_some _ _ _
  users := rfl

theorem withEnvironment_withEnvironment (s : Settings) (environment : Environment) :
    (s.withEnvironment environment).withEnvironment environment = s.withEnvironment environment := by
  simp only [withEnvironment, override_override]

/-- Reading the file of assignments and overriding the settings gives settings that follow the
variables; overriding them again changes nothing. -/
theorem overrides_follow_variables (tree : FileTree) (environment : Environment)
    (h : ∀ line ∈ assignmentLines tree, Acceptable line) :
    ∃ environment', readAssignments tree environment = .ok environment' ∧ ∀ s : Settings,
      Overridden (effective? (assignmentLines tree) environment) s (s.withEnvironment environment') ∧
      (s.withEnvironment environment').withEnvironment environment' =
        s.withEnvironment environment' := by
  obtain ⟨environment', hread, hget⟩ := readAssignments_of_acceptable tree environment h
  have hvalue : environment'.get? = effective? (assignmentLines tree) environment := funext hget
  refine ⟨environment', hread, fun s => ⟨?_, withEnvironment_withEnvironment s environment'⟩⟩
  rw [← hvalue]
  exact withEnvironment_overridden s environment'

/-- A file that sets the host twice, at last to nothing. -/
def hostTwice : FileTree :=
  .ofFiles [(assignmentsName, Utf8.encodeString "HOST = first = 1 \n\nnotes\n HOST\t=\n")]

/-- The last line for the host empties it, whatever the process says. -/
theorem host_is_emptied : ∃ environment',
    readAssignments hostTwice ⟨[("HOST", "localhost")]⟩ = .ok environment' ∧
      (defaults.withEnvironment environment').application.host = "" := by
  have h : ∀ line ∈ assignmentLines hostTwice, Acceptable line := by decide +kernel
  obtain ⟨environment', hread, hs⟩ :=
    overrides_follow_variables hostTwice ⟨[("HOST", "localhost")]⟩ h
  have hvalue : effective? (assignmentLines hostTwice) ⟨[("HOST", "localhost")]⟩ "HOST" = some "" := by
    decide +kernel
  refine ⟨environment', hread, ?_⟩
  rw [(hs defaults).1.host, hvalue]
  rfl

end TwoStepLogin.Settings
