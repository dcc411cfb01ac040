/-!
# Users and their devices

* `User` — a person the directory knows;
* `DeviceRegistration` — a device enrolled for an application;
* `Credentials` — a user name and a password as typed.
-/

set_option autoImplicit false

namespace TwoStepLogin

/-- A user of the directory. -/
structure User where
  /-- Login name, as typed by the user. -/
  userName : String
  /-- Identifier sent to the FIDO server. -/
  userId : String
  /-- Identifier inside the directory, by which devices are looked up. -/
  inum : String
  deriving DecidableEq, Repr

/-- A device that a user has enrolled for an application. -/
structure DeviceRegistration where
  userInum : String
  applicationId : String
  keyHandle : Option String
  deriving DecidableEq, Repr

/-- User name and password of the first step. -/
structure Credentials where
  userName : String
  password : String
  deriving DecidableEq, Repr

/-- No name and no password. -/
def Credentials.blank : Credentials := ⟨"", ""⟩

end TwoStepLogin
