import TwoStepLogin.Settings.Document
import TwoStepLogin.Settings.Environment
import TwoStepLogin.Settings.FileTree

/-!
# Loading the settings

First a file `.env` sets variables. Then a file `Settings.toml` in the working directory is read,
and one in the directory of secrets takes its place. After that the environment overrides single
settings. At last the logger that the settings describe is installed, of which a process can have only
one.

* `Settings.Failure` — why there are no settings;
* `Settings.ofFile` — the settings of one file;
* `Settings.Loaded` — settings, lines for the terminal and the environment;
* `Settings.load` — the whole procedure.

Left out is the wording of these failures, which the system and the parser of documents choose, and with
it what is wrong in a file. The variables that the file of assignments sets stay set in the process; here
only what they do to the settings counts.
-/

set_option autoImplicit false

namespace TwoStepLogin.Settings

/-- Why there are no settings, in a process that has a logger or has none. -/
inductive Failure (installed : Bool := false) where
  /-- A file cannot be read as text. -/
  | unreadable
  /-- A file is no TOML document, or its values do not fit. -/
  | malformed
  /-- The system refuses a variable of that name; the program is aborted. -/
  | refusedVariable (name : String)
  /-- The process has a logger already. -/
  | loggerInstalled (h : installed = true)
  deriving DecidableEq, Repr

/-- A failure that has nothing to do with loggers happens in every process. -/
def Failure.inProcess (installed : Bool) : Failure → Failure installed
  | .unreadable => .unreadable
  | .malformed => .malformed
  | .refusedVariable name => .refusedVariable name

/-- The settings of one file. -/
def ofFile (tree : FileTree) (path : String) : Except Failure Settings :=
  match tree.readText? path with
  | none => .error .unreadable
  | some text =>
    match ofToml? text with
    | none => .error .malformed
    | some settings => .ok settings

/-- Name of the settings file. -/
def fileName : String := "Settings.toml"

/-- Name of the file with assignments. -/
def assignmentsName : String := ".env"

/-- Variable that names the directory of secrets. -/
def secretsVariable : String := "U2F_SECRETS_DIR"

/-- The path of a file in a directory. -/
def join (directory name : String) : String :=
  match directory.toList.reverse with
  | [] => name
  | '/' :: _ => directory ++ name
  | _ => directory ++ "/" ++ name

/-- What loading comes to. -/
structure Loaded (installed : Bool := false) where
  outcome : Except (Failure installed) Settings
  /-- Messages written to the terminal, each with a line feed behind it. -/
  printed : List String

/-- The settings of the working directory, with the messages written. -/
def loadWorking (tree : FileTree) : Loaded :=
  if tree.holds fileName then
    match ofFile tree fileName with
    | .error failure => ⟨.error failure, []⟩
    | .ok settings => ⟨.ok settings, ["✓ Loaded base settings from " ++ fileName]⟩
  else ⟨.ok defaults, []⟩

/-- The settings of the directory of secrets in the place of others. -/
def loadSecrets (tree : FileTree) (directory : String) (base : Settings) : Loaded :=
  let path := join directory fileName
  if tree.holds path then
    match ofFile tree path with
    | .error failure => ⟨.error failure, []⟩
    | .ok settings => ⟨.ok settings, ["✓ Overriding settings from " ++ path]⟩
  else
    ⟨.ok base, ["ℹ " ++ secretsVariable ++ " set but no Settings.toml found at: " ++ path]⟩

/-- The settings of all files. -/
def loadFiles (tree : FileTree) (environment : Environment) : Loaded :=
  let working := loadWorking tree
  match working.outcome, environment.get? secretsVariable with
  | .ok base, some directory =>
    let secrets := loadSecrets tree directory base
    ⟨secrets.outcome, working.printed ++ secrets.printed⟩
  | _, _ => working

/-- The environment after the file of assignments, which may be missing or unreadable. -/
def readAssignments (tree : FileTree) (environment : Environment) : Except String Environment :=
  match tree.readText? assignmentsName with
  | none => .ok environment
  | some text => applyAssignments (assignments text) environment

/-- The file of secrets that loading looks for, given the file of assignments. -/
def secretsPath? (tree : FileTree) (environment : Environment) : Option String :=
  match readAssignments tree environment with
  | .error _ => none
  | .ok environment => (environment.get? secretsVariable).map fun directory => join directory fileName

/-- Install the logger of the settings, unless one is installed. -/
def installLogger : (installed : Bool) → Settings → Except (Failure installed) Settings
  | true, _ => .error (.loggerInstalled rfl)
  | false, settings => .ok settings

/-- Load the settings, in a process that has a logger or has none. -/
def load (tree : FileTree) (environment : Environment) (installed : Bool := false) :
    Loaded installed :=
  match readAssignments tree environment with
  | .error name => ⟨.error (.refusedVariable name), []⟩
  | .ok environment =>
    let files := loadFiles tree environment
    match files.outcome with
    | .error failure => ⟨.error (failure.inProcess installed), files.printed⟩
    | .ok settings => ⟨installLogger installed (settings.withEnvironment environment), files.printed⟩

end TwoStepLogin.Settings
