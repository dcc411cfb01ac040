import TwoStepLogin.Account.Basic
import TwoStepLogin.Digest.Sha256
import TwoStepLogin.Effect.Log
import TwoStepLogin.Text.Base64
import TwoStepLogin.Text.Utf8

/-!
# The user directory

* `Directory.Query` — what a login may ask of any directory, with the type of each answer;
* `Directory.Fault` — why a query can fail;
* `passwordDigest` — the form in which passwords are kept;
* `Directory` — a directory held in memory: the last entry written under each user name, and every
  device registration in the order of arrival;
* `Directory.respond` — its answer to a query and the directory afterwards.
-/

set_option autoImplicit false

namespace TwoStepLogin

/-- The Base64 text of the SHA-256 digest of a password. -/
def passwordDigest (password : String) : String :=
  Base64.encodeBytes (Sha256.digest (Utf8.encodeString password))

namespace Directory

/-- Why a directory cannot answer. -/
inductive Fault where
  | unknownInum (inum : String)
  deriving DecidableEq, Repr

/-- Wording of a fault. -/
def Fault.message : Fault → String
  | .unknownInum inum => "no user with inum " ++ inum

/-- What may be asked of a directory. -/
inductive Query where
  /-- Check a user name and a password. -/
  | authenticate (userName password : String)
  /-- Resolve a user by login name. -/
  | findUser (userName : String)
  /-- All devices of a user for an application. -/
  | findDevices (userInum applicationId : String)
  /-- Remember an enrolled device. -/
  | record (registration : DeviceRegistration)
  deriving DecidableEq, Repr

/-- The type of the answers to a query. -/
def Query.Answer : Query → Type
  | .authenticate _ _ => Bool
  | .findUser _ => Except Fault (Option User)
  | .findDevices _ _ => Except Fault (List DeviceRegistration)
  | .record _ => Except Fault Unit

/-- A user together with the digest of the password. -/
structure Entry where
  user : User
  passwordSha256 : String
  deriving DecidableEq, Repr

/-- A user as listed in the settings, with the applications that devices are enrolled for. -/
structure Seed where
  userName : String
  userId : String
  inum : String
  passwordSha256 : String
  devices : List String
  deriving DecidableEq, Repr

/-- The user that a seed describes. -/
def Seed.user (seed : Seed) : User := ⟨seed.userName, seed.userId, seed.inum⟩

/-- The devices that a seed brings along. -/
def Seed.registrations (seed : Seed) : List DeviceRegistration :=
  seed.devices.map fun applicationId => ⟨seed.inum, applicationId, none⟩

end Directory

/-- A directory held in memory. -/
structure Directory where
  /-- The current entry of each user name. -/
  entries : List (String × Directory.Entry)
  /-- All registrations, oldest first. -/
  registrations : List DeviceRegistration
  deriving DecidableEq, Repr

namespace Directory

/-- A directory without users. -/
def empty : Directory := ⟨[], []⟩

/-- Write an entry under its user name, in the place of an older one. -/
def putEntry (name : String) (entry : Entry) : List (String × Entry) → List (String × Entry)
  | [] => [(name, entry)]
  | (other, old) :: rest =>
    if other = name then (name, entry) :: rest else (other, old) :: putEntry name entry rest

/-- The current entry of a user name. -/
def entryFor? (d : Directory) (userName : String) : Option Entry := d.entries.lookup userName

/-- The current user of that name. -/
def user? (d : Directory) (userName : String) : Option User := (d.entryFor? userName).map Entry.user

/-- Whether some current user has this inum. -/
def knowsInum (d : Directory) (inum : String) : Bool := d.entries.any fun e => e.2.user.inum == inum

/-- The registrations of a user for an application, oldest first. -/
def devices (d : Directory) (userInum applicationId : String) : List DeviceRegistration :=
  d.registrations.filter fun r => r.userInum == userInum && r.applicationId == applicationId

/-- Whether the password is that of the current user of this name. -/
def accepts (d : Directory) (userName password : String) : Bool :=
  match d.entryFor? userName with
  | some entry => entry.passwordSha256 == passwordDigest password
  | none => false

/-- Add the user of a seed and its devices. -/
def addSeed (d : Directory) (seed : Seed) : Directory :=
  ⟨putEntry seed.userName ⟨seed.user, seed.passwordSha256⟩ d.entries,
   d.registrations ++ seed.registrations⟩

/-- The directory of the seeds, in order. -/
def ofSeeds (seeds : List Seed) : Directory := seeds.foldl addSeed empty

/-- Said when a directory has been filled from seeds. -/
def loadedRecord (d : Directory) : Log.Record :=
  .info ("Loaded " ++ toString d.entries.length ++ " users and " ++
    toString d.registrations.length ++ " device registrations into the directory")

/-- Add or replace a user, given the plain password. -/
def addUser (d : Directory) (user : User) (password : String) : Directory :=
  { d with entries := putEntry user.userName ⟨user, passwordDigest password⟩ d.entries }

/-- Add a registration whoever its user is. -/
def addDevice (d : Directory) (registration : DeviceRegistration) : Directory :=
  { d with registrations := d.registrations ++ [registration] }

/-- Add a registration of a current user. -/
def record (d : Directory) (registration : DeviceRegistration) : Except Fault Unit × Directory :=
  if d.knowsInum registration.userInum then (.ok (), d.addDevice registration)
  else (.error (.unknownInum registration.userInum), d)

/-- The answer to a query and the directory afterwards. -/
def respond : (query : Query) → Directory → query.Answer × Directory
  | .authenticate userName password, d => (d.accepts userName password, d)
  | .findUser userName, d => (.ok (d.user? userName), d)
  | .findDevices userInum applicationId, d => (.ok (d.devices userInum applicationId), d)
  | .record registration, d => d.record registration

/-! ## Reading after writing -/

theorem devices_addDevice (d : Directory) (r : DeviceRegistration) (inum applicationId : String) :
    (d.addDevice r).devices inum applicationId =
      d.devices inum applicationId ++
        if r.userInum = inum ∧ r.applicationId = applicationId then [r] else [] := by
  simp only [devices, addDevice, List.filter_append]
  congr 1
  by_cases h : r.userInum = inum ∧ r.applicationId = applicationId
  · simp [h]
  · rw [if_neg h, List.filter_cons_of_neg (by simpa using h), List.filter_nil]

end Directory

end TwoStepLogin
