import TwoStepLogin.Account.Basic
import TwoStepLogin.Json.Printer
import TwoStepLogin.Json.Record

/-!
# Users and devices as JSON

* `User.toJson`, `User.read?` — and likewise for device registrations;
* `Credentials.read?` — credentials are only read, never written.
-/

set_option autoImplicit false

namespace TwoStepLogin

open Json.Record (Field text? optionalText?)

namespace User

/-- The fields of a written user. -/
def fields : List Field :=
  [⟨"user_name", .mandatory⟩, ⟨"user_id", .mandatory⟩, ⟨"inum", .mandatory⟩]

/-- A user as a record. -/
def toJson (user : User) : Json :=
  Json.Record.write [
    ("user_name", .string user.userName),
    ("user_id", .string user.userId),
    ("inum", .string user.inum)]

/-- The user of field values. -/
def ofValues? : List Json → Option User
  | [userName, userId, inum] => do
    some ⟨← text? userName, ← text? userId, ← text? inum⟩
  | _ => none

/-- Read a user. -/
def read? (text : String) : Option User := (Json.Record.read? fields text).bind ofValues?

end User

namespace DeviceRegistration

/-- The fields of a written registration. -/
def fields : List Field :=
  [⟨"user_inum", .mandatory⟩, ⟨"application_id", .mandatory⟩, ⟨"key_handle", .nullable⟩]

/-- A registration as a record. -/
def toJson (registration : DeviceRegistration) : Json :=
  Json.Record.write [
    ("user_inum", .string registration.userInum),
    ("application_id", .string registration.applicationId),
    ("key_handle", .ofText? registration.keyHandle)]

/-- The registration of field values. -/
def ofValues? : List Json → Option DeviceRegistration
  | [userInum, applicationId, keyHandle] => do
    some ⟨← text? userInum, ← text? applicationId, ← optionalText? keyHandle⟩
  | _ => none

/-- Read a registration. -/
def read? (text : String) : Option DeviceRegistration :=
  (Json.Record.read? fields text).bind ofValues?

end DeviceRegistration

namespace Credentials

/-- The fields of written credentials. -/
def fields : List Field := [⟨"username", .mandatory⟩, ⟨"password", .mandatory⟩]

/-- The credentials of field values. -/
def ofValues? : List Json → Option Credentials
  | [userName, password] => do
    some ⟨← text? userName, ← text? password⟩
  | _ => none

/-- Read credentials. -/
def read? (text : String) : Option Credentials := (Json.Record.read? fields text).bind ofValues?

end Credentials

end TwoStepLogin
