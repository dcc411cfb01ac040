import Mathlib
import TwoStepLogin.Proofs.Toml.FieldValues
import TwoStepLogin.Settings.Load

/-!
# Layers of settings files

There may be two settings files: one in the directory of secrets and one in the working directory. The
settings are those of the first of them that exists, with defaults for all keys it does not mention;
what the other one sets is lost. So the files are no layers key by key, as a reader of the order of
priority would expect: a file of secrets that is silent on a key sets it back to its default.

* `Settings.Key` — the keys of a settings file, what kind of value each has and where it stands;
* `Settings.Layered` — each key has the value of the first of some files that sets it, or its default;
* `Settings.ofFile_layered` — the settings of one file are those of one layer;
* `Settings.first_file_decides` — what loading does;
* `Settings.silent_secrets_reset_timeout` — two files that are not layered.
-/

set_option autoImplicit false

namespace TwoStepLogin.Settings

open Toml (Value)
open Toml.Record

/-! ## Keys -/

/-- The keys of a settings file. -/
inductive Key where
  | host
  | port
  | serverUri
  | applicationId
  | requestTimeoutSeconds
  | maxAttempts
  | retryDelayMs
  | cookieSecure
  | loginTimeoutMinutes
  | level
  | users
  deriving DecidableEq, Repr

namespace Key

/-- The values of a key. -/
def Kind : Key → Type
  | host | serverUri | applicationId | level => String
  | port => UInt16
  | requestTimeoutSeconds | retryDelayMs => UInt64
  | maxAttempts => UInt32
  | cookieSecure => Bool
  | loginTimeoutMinutes => Int64
  | users => List Directory.Seed

/-- The value of a key in the settings. -/
def of (s : Settings) : (key : Key) → key.Kind
  | host => s.application.host
  | port => s.application.port
  | serverUri => s.server.serverUri
  | applicationId => s.server.applicationId
  | requestTimeoutSeconds => s.server.requestTimeoutSeconds
  | maxAttempts => s.retry.maxAttempts
  | retryDelayMs => s.retry.retryDelayMs
  | cookieSecure => s.logins.cookieSecure
  | loginTimeoutMinutes => s.logins.loginTimeoutMinutes
  | level => s.logging.level
  | users => s.users

/-- The value that is written for a key. -/
def read? : (key : Key) → Value → Option key.Kind
  | host | serverUri | applicationId | level => text?
  | port => uint16?
  | requestTimeoutSeconds | retryDelayMs => uint64?
  | maxAttempts => uint32?
  | cookieSecure => boolean?
  | loginTimeoutMinutes => int64?
  | users => list? seedOfValue?

/-- The tables of a document. -/
def tables : List String := ["application", "u2f", "metadata", "session", "logging", "users"]

/-- The names in the table `application`; and likewise for the other tables. -/
def applicationNames : List String := ["host", "port"]

def serverNames : List String := ["server_uri", "application_id", "request_timeout_seconds"]

def retryNames : List String := ["max_attempts", "retry_delay_ms"]

def loginsNames : List String := ["cookie_secure", "login_timeout_minutes"]

def loggingNames : List String := ["level"]

/-- What a document gives under a name in one of its tables. -/
def inTable (table : String) (names : List String) (name : String) (document : Value) :
    Option Value :=
  (field? tables table document).bind (field? names name)

/-- What a document gives for a key. -/
def given? : Key → Value → Option Value
  | host => inTable "application" applicationNames "host"
  | port => inTable "application" applicationNames "port"
  | serverUri => inTable "u2f" serverNames "server_uri"
  | applicationId => inTable "u2f" serverNames "application_id"
  | requestTimeoutSeconds => inTable "u2f" serverNames "request_timeout_seconds"
  | maxAttempts => inTable "metadata" retryNames "max_attempts"
  | retryDelayMs => inTable "metadata" retryNames "retry_delay_ms"
  | cookieSecure => inTable "session" loginsNames "cookie_secure"
  | loginTimeoutMinutes => inTable "session" loginsNames "login_timeout_minutes"
  | level => inTable "logging" loggingNames "level"
  | users => field? tables "users"

end Key

/-! ## Tables -/

open Key

variable {v : Value}

theorem Application.ofValue?_fields {a : Application} (h : ofValue? v = some a) :
    Toml.Record.read? text? defaults.host (field? applicationNames "host" v) = some a.host ∧
    Toml.Record.read? uint16? defaults.port (field? applicationNames "port" v) = some a.port := by
  have h := bind_values? (by decide) h
  simp only [List.map_cons, List.map_nil, Option.bind_eq_bind, Option.bind_eq_some_iff] at h
  obtain ⟨host, hhost, port, hport, h⟩ := h
  cases h
  exact ⟨hhost, hport⟩

theorem Server.ofValue?_fields {a : Server} (h : ofValue? v = some a) :
    Toml.Record.read? text? defaults.serverUri (field? serverNames "server_uri" v) =
      some a.serverUri ∧
    Toml.Record.read? text? defaults.applicationId (field? serverNames "application_id" v) =
      some a.applicationId ∧
    Toml.Record.read? uint64? defaults.requestTimeoutSeconds
      (field? serverNames "request_timeout_seconds" v) = some a.requestTimeoutSeconds := by
  have h := bind_values? (by decide) h
  simp only [List.map_cons, List.map_nil, Option.bind_eq_bind, Option.bind_eq_some_iff] at h
  obtain ⟨uri, huri, application, happlication, timeout, htimeout, h⟩ := h
  cases h
  exact ⟨huri, happlication, htimeout⟩

theorem Retry.ofValue?_fields {a : Retry} (h : ofValue? v = some a) :
    Toml.Record.read? uint32? defaults.maxAttempts (field? retryNames "max_attempts" v) =
      some a.maxAttempts ∧
    Toml.Record.read? uint64? defaults.retryDelayMs (field? retryNames "retry_delay_ms" v) =
      some a.retryDelayMs := by
  have h := bind_values? (by decide) h
  simp only [List.map_cons, List.map_nil, Option.bind_eq_bind, Option.bind_eq_some_iff] at h
  obtain ⟨attempts, hattempts, delay, hdelay, h⟩ := h
  cases h
  exact ⟨hattempts, hdelay⟩

theorem Logins.ofValue?_fields {a : Logins} (h : ofValue? v = some a) :
    Toml.Record.read? boolean? defaults.cookieSecure (field? loginsNames "cookie_secure" v) =
      some a.cookieSecure ∧
    Toml.Record.read? int64? defaults.loginTimeoutMinutes
      (field? loginsNames "login_timeout_minutes" v) = some a.loginTimeoutMinutes := by
  have h := bind_values? (by decide) h
  simp only [List.map_cons, List.map_nil, Option.bind_eq_bind, Option.bind_eq_some_iff] at h
  obtain ⟨secure, hsecure, timeout, htimeout, h⟩ := h
  cases h
  exact ⟨hsecure, htimeout⟩

theorem Logging.ofValue?_fields {a : Logging} (h : ofValue? v = some a) :
    Toml.Record.read? text? defaults.level (field? loggingNames "level" v) = some a.level := by
  have h := bind_values? (by decide) h
  simp only [List.map_cons, List.map_nil, Option.bind_eq_bind, Option.bind_eq_some_iff] at h
  obtain ⟨level, hlevel, h⟩ := h
  cases h
  exact hlevel

/-! ## Documents -/

/-- The settings of a document hold for each key what the document gives for it, or its default. -/
theorem ofValue?_keys {document : Value} {s : Settings} (h : ofValue? document = some s) (key : Key) :
    Toml.Record.read? key.read? (key.of defaults) (key.given? document) = some (key.of s) := by
  have h := bind_values? (by decide) h
  simp only [List.map_cons, List.map_nil, Option.bind_eq_bind, Option.bind_eq_some_iff] at h
  obtain ⟨application, happlication, server, hserver, retry, hretry, logins, hlogins, logging,
    hlogging, users, husers, h⟩ := h
  cases h
  cases key with
  | host =>
    exact read?_bind Application.host happlication fun _ _ h => (Application.ofValue?_fields h).1
  | port =>
    exact read?_bind Application.port happlication fun _ _ h => (Application.ofValue?_fields h).2
  | serverUri =>
    exact read?_bind Server.serverUri hserver fun _ _ h => (Server.ofValue?_fields h).1
  | applicationId =>
    exact read?_bind Server.applicationId hserver fun _ _ h => (Server.ofValue?_fields h).2.1
  | requestTimeoutSeconds =>
    exact read?_bind Server.requestTimeoutSeconds hserver fun _ _ h => (Server.ofValue?_fields h).2.2
  | maxAttempts => exact read?_bind Retry.maxAttempts hretry fun _ _ h => (Retry.ofValue?_fields h).1
  | retryDelayMs =>
    exact read?_bind Retry.retryDelayMs hretry fun _ _ h => (Retry.ofValue?_fields h).2
  | cookieSecure =>
    exact read?_bind Logins.cookieSecure hlogins fun _ _ h => (Logins.ofValue?_fields h).1
  | loginTimeoutMinutes =>
    exact read?_bind Logins.loginTimeoutMinutes hlogins fun _ _ h => (Logins.ofValue?_fields h).2
  | level => exact read?_bind Logging.level hlogging fun _ _ h => Logging.ofValue?_fields h
  | users => exact husers

/-! ## Files -/

/-- The document in a file, if the file is readable and its text is one. -/
def document? (tree : FileTree) (path : String) : Option Value :=
  (tree.readText? path).bind Toml.parse?

/-- What the document in a file gives for a key. -/
def Key.inFile? (key : Key) (tree : FileTree) (path : String) : Option Value :=
  (document? tree path).bind key.given?

/-- Each key has the value that the first of the files to give one gives for it; a key for which none
gives a value has its default. -/
def Layered (tree : FileTree) (paths : List String) (s : Settings) : Prop :=
  ∀ key : Key, Toml.Record.read? key.read? (key.of defaults) (paths.findSome? (key.inFile? tree)) =
    some (key.of s)

/-- A file that can be read and holds settings. -/
def Usable (tree : FileTree) (path : String) : Prop := ∃ s, ofFile tree path = .ok s

/-- Where settings files may be, the one that goes before the other first. -/
def candidates (environment : Environment) : List String :=
  ((environment.get? secretsVariable).map fun directory => join directory fileName).toList ++ [fileName]

/-- Those that are there. -/
def layers (tree : FileTree) (environment : Environment) : List String :=
  (candidates environment).filter tree.holds

variable {tree : FileTree} {path : String} {s : Settings}

theorem ofFile_eq_ok_iff : ofFile tree path = .ok s ↔
    ∃ document, document? tree path = some document ∧ ofValue? document = some s := by
  rw [ofFile, document?]
  cases tree.readText? path with
  | none => simp
  | some text =>
    simp only [Option.bind_some, ofToml?]
    cases Toml.parse? text with
    | none => simp
    | some document =>
      simp only [Option.bind_some]
      cases hvalue : ofValue? document <;> simp [hvalue]

theorem layered_nil (tree : FileTree) : Layered tree [] defaults := fun _ => rfl

/-- The settings of a file are its keys over the defaults. -/
theorem ofFile_layered (h : ofFile tree path = .ok s) : Layered tree [path] s := by
  intro key
  obtain ⟨document, hdocument, hvalue⟩ := ofFile_eq_ok_iff.1 h
  have hgiven : [path].findSome? (key.inFile? tree) = key.given? document := by
    simp [Key.inFile?, hdocument]
  rw [hgiven, ofValue?_keys hvalue]

/-- A key that none of the files gives has its default. -/
theorem Layered.default_of_silent {paths : List String} {key : Key} (h : Layered tree paths s)
    (hsilent : ∀ path ∈ paths, key.inFile? tree path = none) : key.of s = key.of defaults := by
  have hkey := h key
  rw [List.findSome?_eq_none_iff.2 hsilent] at hkey
  exact (Option.some.inj hkey).symm

/-- The settings of one file are layered over further files if and only if no further file gives a key
that the one does not mention, or gives it its default. -/
theorem Layered.cons_iff {paths : List String} (h : Layered tree [path] s) :
    Layered tree (path :: paths) s ↔ ∀ key : Key, key.inFile? tree path = none →
      Toml.Record.read? key.read? (key.of defaults) (paths.findSome? (key.inFile? tree)) =
        some (key.of defaults) := by
  have hkey (key : Key) (hsilent : key.inFile? tree path = none) : key.of s = key.of defaults :=
    h.default_of_silent (List.forall_mem_singleton.2 hsilent)
  constructor
  · intro hlayered key hsilent
    have hall := hlayered key
    rwa [List.findSome?_cons, hsilent, hkey key hsilent] at hall
  · intro hrest key
    cases hgiven : key.inFile? tree path with
    | none => rw [List.findSome?_cons, hgiven, hkey key hgiven, hrest key hgiven]
    | some v =>
      have hfirst := h key
      rw [List.findSome?_cons, hgiven] at hfirst
      rw [List.findSome?_cons, hgiven, hfirst]

/-! ## Loading -/

/-- A failure because a file cannot be read or holds no settings. -/
def FailsAtFile {installed : Bool} (outcome : Except (Failure installed) Settings) : Prop :=
  outcome = .error .unreadable ∨ outcome = .error .malformed

/-- The settings of a file that may be missing. -/
def ofFileOr (tree : FileTree) (path : String) (base : Settings) : Except Failure Settings :=
  if tree.holds path then ofFile tree path else .ok base

/-- The settings of files of which each may be missing; the last is looked at first. -/
def ofFiles (tree : FileTree) : List String → Except Failure Settings
  | [] => .ok defaults
  | path :: paths => (ofFiles tree paths).bind (ofFileOr tree path)

theorem loadWorking_outcome (tree : FileTree) :
    (loadWorking tree).outcome = ofFileOr tree fileName defaults := by
  rw [loadWorking, ofFileOr]
  split
  · cases ofFile tree fileName <;> rfl
  · rfl

theorem loadSecrets_outcome (tree : FileTree) (directory : String) (base : Settings) :
    (loadSecrets tree directory base).outcome = ofFileOr tree (join directory fileName) base := by
  simp only [loadSecrets, ofFileOr]
  split
  · cases ofFile tree (join directory fileName) <;> rfl
  · rfl

theorem loadFiles_outcome (tree : FileTree) (environment : Environment) :
    (loadFiles tree environment).outcome = ofFiles tree (candidates environment) := by
  have hlast : ofFiles tree [fileName] = (loadWorking tree).outcome :=
    (loadWorking_outcome tree).symm
  rw [loadFiles, candidates]
  cases environment.get? secretsVariable with
  | none =>
    rw [Option.map_none, Option.toList_none, List.nil_append, hlast]
    split <;> trivial
  | some directory =>
    rw [Option.map_some, Option.toList_some, List.singleton_append, ofFiles, hlast]
    cases hworking : (loadWorking tree).outcome with
    | error failure => simp only [hworking, Except.bind]
    | ok base => simp only [loadSecrets_outcome, Except.bind]

theorem failsAtFile_ofFile (h : ¬ Usable tree path) : FailsAtFile (ofFile tree path) := by
  cases hfile : ofFile tree path with
  | ok s => exact absurd ⟨s, hfile⟩ h
  | error failure =>
    rw [ofFile] at hfile
    split at hfile
    · cases hfile
      exact .inl rfl
    · split at hfile
      · cases hfile
        exact .inr rfl
      · cases hfile

/-- If all the files there are can be used, the settings are those of the first one. -/
theorem ofFiles_of_usable {paths : List String} (h : ∀ path ∈ paths.filter tree.holds, Usable tree path) :
    ∃ s, ofFiles tree paths = .ok s ∧ Layered tree ((paths.filter tree.holds).take 1) s := by
  induction paths with
  | nil => exact ⟨defaults, rfl, layered_nil tree⟩
  | cons path paths ih =>
    rw [List.filter_cons] at h ⊢
    by_cases hholds : tree.holds path = true
    · rw [if_pos hholds] at h ⊢
      obtain ⟨husable, h⟩ := List.forall_mem_cons.1 h
      obtain ⟨base, hbase, -⟩ := ih h
      obtain ⟨s, hs⟩ := husable
      refine ⟨s, ?_, ofFile_layered hs⟩
      rw [ofFiles, hbase, Except.bind, ofFileOr, if_pos hholds, hs]
    · rw [if_neg hholds] at h ⊢
      obtain ⟨base, hbase, hlayered⟩ := ih h
      refine ⟨base, ?_, hlayered⟩
      rw [ofFiles, hbase, Except.bind, ofFileOr, if_neg hholds]

theorem FailsAtFile.bind {installed : Bool} {outcome : Except (Failure installed) Settings}
    (h : FailsAtFile outcome) (next : Settings → Except (Failure installed) Settings) :
    FailsAtFile (outcome.bind next) := by
  obtain rfl | rfl := h
  · exact .inl rfl
  · exact .inr rfl

theorem FailsAtFile.inProcess {outcome : Except Failure Settings} (h : FailsAtFile outcome)
    (installed : Bool) : FailsAtFile (outcome.mapError (Failure.inProcess installed)) := by
  obtain rfl | rfl := h
  · exact .inl rfl
  · exact .inr rfl

/-- One file that cannot be used is enough for a failure. -/
theorem ofFiles_of_unusable {paths : List String} (hpath : path ∈ paths.filter tree.holds)
    (h : ¬ Usable tree path) : FailsAtFile (ofFiles tree paths) := by
  induction paths generalizing path with
  | nil => cases hpath
  | cons first paths ih =>
    rw [ofFiles]
    by_cases hrest : ∀ path ∈ paths.filter tree.holds, Usable tree path
    · obtain ⟨base, hbase, -⟩ := ofFiles_of_usable hrest
      obtain ⟨hmem, hholds⟩ := List.mem_filter.1 hpath
      obtain rfl | hmem := List.mem_cons.1 hmem
      · rw [hbase, Except.bind, ofFileOr, if_pos hholds]
        exact failsAtFile_ofFile h
      · exact absurd (hrest path (List.mem_filter.2 ⟨hmem, hholds⟩)) h
    · obtain ⟨other, hrest⟩ := Classical.not_forall.1 hrest
      obtain ⟨hother, hunusable⟩ := Classical.not_imp.1 hrest
      exact (ih hother hunusable).bind _

/-- What follows the files: the overrides, and then the logger. -/
theorem load_outcome {environment environment' : Environment}
    (h : readAssignments tree environment = .ok environment') (installed : Bool) :
    (load tree environment installed).outcome =
      ((ofFiles tree (candidates environment')).mapError (Failure.inProcess installed)).bind fun s =>
        installLogger installed (s.withEnvironment environment') := by
  rw [load, h, ← loadFiles_outcome]
  cases hfiles : (loadFiles tree environment').outcome <;> simp only [hfiles] <;> rfl

/-- Loading takes the first settings file there is, alone: keys that it does not give have their
defaults, whatever another file gives for them. These are the settings, unless the process has a logger
already. If any of the files cannot be read or holds no settings, there are none. -/
theorem first_file_decides (tree : FileTree) (environment environment' : Environment)
    (h : readAssignments tree environment = .ok environment') :
    ((∀ path ∈ layers tree environment', Usable tree path) →
      ∃ s, (loadFiles tree environment').outcome = .ok s ∧
        (load tree environment).outcome = .ok (s.withEnvironment environment') ∧
        (load tree environment true).outcome = .error (.loggerInstalled rfl) ∧
        Layered tree ((layers tree environment').take 1) s) ∧
    ((∃ path ∈ layers tree environment', ¬ Usable tree path) →
      ∀ installed, FailsAtFile (load tree environment installed).outcome) := by
  constructor
  · intro husable
    obtain ⟨s, hs, hlayered⟩ := ofFiles_of_usable husable
    have hload (installed : Bool) : (load tree environment installed).outcome =
        installLogger installed (s.withEnvironment environment') := by
      rw [load_outcome h, hs]
      rfl
    exact ⟨s, (loadFiles_outcome _ _).trans hs, hload false, hload true, hlayered⟩
  · rintro ⟨path, hpath, hunusable⟩ installed
    rw [load_outcome h]
    have hfails := ofFiles_of_unusable hpath hunusable
    exact (hfails.inProcess installed).bind _

/-! ## Two files -/

/-- A file in the working directory that sets the timeout of logins, and one in the directory of secrets
that sets the port. -/
def twoFiles : FileTree :=
  .ofFiles [
    (fileName, Utf8.encodeString "[session]\nlogin_timeout_minutes = 30\n"),
    ("secrets/Settings.toml", Utf8.encodeString "[application]\nport = 9090\n")]

/-- An environment that names the directory of secrets. -/
def secretsAside : Environment := ⟨[(secretsVariable, "secrets")]⟩

/-- A settings file that is no text. -/
def brokenFile : FileTree := .ofFiles [(fileName, [0xFF])]

theorem layers_twoFiles : layers twoFiles secretsAside = ["secrets/Settings.toml", fileName] := by
  decide +kernel

theorem document?_working : document? twoFiles fileName =
    some (.table false [("session", .table false [("login_timeout_minutes", .integer 30)])]) := by
  have htext : twoFiles.readText? fileName = some "[session]\nlogin_timeout_minutes = 30\n" := by
    decide +kernel
  rw [document?, htext, Option.bind_some]
  cbv

theorem document?_secrets : document? twoFiles "secrets/Settings.toml" =
    some (.table false [("application", .table false [("port", .integer 9090)])]) := by
  have htext : twoFiles.readText? "secrets/Settings.toml" = some "[application]\nport = 9090\n" := by
    decide +kernel
  rw [document?, htext, Option.bind_some]
  cbv

theorem usable_twoFiles : ∀ path ∈ layers twoFiles secretsAside, Usable twoFiles path := by
  rw [layers_twoFiles, List.forall_mem_cons, List.forall_mem_singleton]
  exact ⟨⟨_, ofFile_eq_ok_iff.2 ⟨_, document?_secrets, rfl⟩⟩,
    _, ofFile_eq_ok_iff.2 ⟨_, document?_working, rfl⟩⟩

theorem timeout_of_secrets :
    Key.loginTimeoutMinutes.inFile? twoFiles "secrets/Settings.toml" = none := by
  rw [Key.inFile?, document?_secrets]
  rfl

/-- The timeout of logins that the file in the working directory sets is lost: the other file does not
mention it. -/
theorem silent_secrets_reset_timeout :
    (∀ path ∈ layers twoFiles secretsAside, Usable twoFiles path) ∧
    ∃ s, (loadFiles twoFiles secretsAside).outcome = .ok s ∧ s.logins.loginTimeoutMinutes = 10 ∧
      ¬ Layered twoFiles (layers twoFiles secretsAside) s := by
  obtain ⟨s, hs, hfirst⟩ := ofFiles_of_usable usable_twoFiles
  rw [← layers, layers_twoFiles, List.take_succ_cons, List.take_zero] at hfirst
  have hreset : s.logins.loginTimeoutMinutes = 10 :=
    hfirst.default_of_silent (List.forall_mem_singleton.2 timeout_of_secrets)
  refine ⟨usable_twoFiles, s, (loadFiles_outcome _ _).trans hs, hreset, ?_⟩
  rw [layers_twoFiles, hfirst.cons_iff]
  intro hsilent
  have hworking : Key.loginTimeoutMinutes.inFile? twoFiles fileName = some (.integer 30) := by
    rw [Key.inFile?, document?_working]
    rfl
  have hkey := hsilent .loginTimeoutMinutes timeout_of_secrets
  rw [List.findSome?_cons, hworking] at hkey
  have hkept : some (30 : Int64) = some 10 := hkey
  exact absurd hkept (by decide)

/-- The file in the directory of secrets sets the port; where a file is no text, loading fails. -/
theorem two_files_and_a_broken_one :
    (∃ s : Settings, (load twoFiles secretsAside).outcome = .ok (s.withEnvironment secretsAside) ∧
      s.application.port = 9090) ∧
    FailsAtFile (load brokenFile .empty).outcome := by
  have hassignments : readAssignments twoFiles secretsAside = .ok secretsAside := by
    rw [readAssignments, show twoFiles.readText? assignmentsName = none by decide +kernel]
  have hassignments' : readAssignments brokenFile .empty = .ok .empty := by
    rw [readAssignments, show brokenFile.readText? assignmentsName = none by decide +kernel]
  constructor
  · obtain ⟨s, -, hload, -, hlayered⟩ :=
      (first_file_decides twoFiles secretsAside secretsAside hassignments).1 usable_twoFiles
    refine ⟨s, hload, ?_⟩
    have hport : Key.port.inFile? twoFiles "secrets/Settings.toml" = some (.integer 9090) := by
      rw [Key.inFile?, document?_secrets]
      rfl
    have hkey := hlayered .port
    rw [layers_twoFiles, List.take_succ_cons, List.findSome?_cons, hport] at hkey
    exact (Option.some.inj (hkey : some (9090 : UInt16) = some s.application.port)).symm
  · refine (first_file_decides brokenFile .empty .empty hassignments').2
      ⟨fileName, by decide +kernel, ?_⟩ false
    rintro ⟨s, hs⟩
    rw [ofFile, show brokenFile.readText? fileName = none by decide +kernel] at hs
    cases hs

end TwoStepLogin.Settings
