import Mathlib.Logic.Function.Basic
import TwoStepLogin.Proofs.Account.DirectoryLaws
import TwoStepLogin.Proofs.Login.ChallengeUse
import TwoStepLogin.Proofs.Login.DeviceFlow

/-!
# Sessions that share a directory

Many logins go on at the same time, and all of them ask the same directory, which is also changed
without any login. Here the directory is no longer someone who may answer anything: only the FIDO
server is left to the surroundings.

* `Login.attended` — a directory at hand answers its queries, everything else is passed on;
* `Login.yields_attended` — such a conversation is one in which the directory answers;
* `Login.Site`, `Login.Deed` — sessions around a directory, and what may be done there;
* `Login.login_yields` — a step of a login asks the directory of its site.
-/

set_option autoImplicit false

namespace TwoStepLogin.Login

open Directory (Inquiry Answers requested? added?)

/-! ## A directory at hand -/

/-- The directory answers and takes down what it was asked; calls of the server and pauses are left to
the surroundings. -/
def attended : Handler surroundings surroundings (Directory × List Inquiry) where
  handle
    | .directory query, (d, asked) =>
      pure ((d.respond query).1, (d.respond query).2, asked ++ [⟨query, (d.respond query).1⟩])
    | .fido call, kept => do
      let answer ← fido call
      pure (answer, kept)
    | .pause milliseconds, kept => do
      pause milliseconds
      pure ((), kept)

/-- What the directory is asked by an exchange. -/
def inquiry? : Exchange surroundings → Option Inquiry
  | ⟨.directory query, answer⟩ => some ⟨query, answer⟩
  | _ => none

/-- What the directory was asked. -/
def inquiriesOf (h : List (Exchange surroundings)) : List Inquiry := h.filterMap inquiry?

/-- What everybody else was asked. -/
def outsideOf (h : List (Exchange surroundings)) : List (Exchange surroundings) :=
  h.filter fun e => (inquiry? e).isNone

/-- A conversation with a directory at hand is one in which the directory gives its answers. -/
theorem yields_attended {α : Type} {p : Action α} {d d' : Directory} {asked asked' : List Inquiry}
    {outside : List (Exchange surroundings)} {v : α}
    (hy : (p.interpret attended (d, asked)).Yields outside (v, d', asked')) :
    ∃ h, p.Yields h v ∧ outside = outsideOf h ∧ asked' = asked ++ inquiriesOf h ∧
      Answers d (inquiriesOf h) d' := by
  induction p generalizing d asked outside with
  | done a =>
    obtain ⟨rfl, he⟩ := hy
    cases he
    exact ⟨[], ⟨rfl, rfl⟩, rfl, (List.append_nil _).symm, rfl⟩
  | note r p ih => exact ih hy
  | ask question k ih =>
    cases question with
    | directory query =>
      obtain ⟨h, hk, rfl, rfl, ha⟩ := ih _ hy
      refine ⟨⟨.directory query, (d.respond query).1⟩ :: h, ⟨_, h, rfl, hk⟩, rfl, ?_, rfl, ha⟩
      exact List.append_assoc _ _ _
    | fido call =>
      obtain ⟨answer, _, rfl, hy₁⟩ := hy
      obtain ⟨h, hk, rfl, rfl, ha⟩ := ih _ hy₁
      exact ⟨⟨.fido call, answer⟩ :: h, ⟨_, h, rfl, hk⟩, rfl, rfl, ha⟩
    | pause milliseconds =>
      obtain ⟨answer, _, rfl, hy₁⟩ := hy
      obtain ⟨h, hk, rfl, rfl, ha⟩ := ih _ hy₁
      exact ⟨⟨.pause milliseconds, answer⟩ :: h, ⟨_, h, rfl, hk⟩, rfl, rfl, ha⟩

theorem inquiriesOf_append (h more : List (Exchange surroundings)) :
    inquiriesOf (h ++ more) = inquiriesOf h ++ inquiriesOf more := List.filterMap_append

theorem outsideOf_append (h more : List (Exchange surroundings)) :
    outsideOf (h ++ more) = outsideOf h ++ outsideOf more := List.filter_append _ _

/-! ## What is done around a directory -/

/-- A step of a login: a submission to the flow, or a call of the method at any step. -/
inductive LoginStep where
  | submit (submission : Submission)
  | call (use : MethodUse)

/-- What a step does with its session. -/
def LoginStep.act (configuration : Configuration) : LoginStep → Session → Action Session
  | .submit submission, s => do
    let (_, s') ← (deviceFlow configuration).submit submission s
    pure s'
  | .call use, s => do
    let (_, s') ← use.act configuration s
    pure s'

/-- Sessions around a directory. -/
structure Site where
  sessions : Nat → Session
  directory : Directory

/-- What may be done at a site: a step of one of the logins, or a change of the directory. -/
inductive Deed where
  | login (place : Nat) (step : LoginStep)
  | addUser (user : User) (password : String)
  | addDevice (registration : DeviceRegistration)
  | record (registration : DeviceRegistration)

/-- Do it; the reply tells what the directory was asked. -/
def Deed.act (configuration : Configuration) : Deed → Site → Action (List Inquiry × Site)
  | .login place step, site => do
    let (s, d, asked) ←
      (step.act configuration (site.sessions place)).interpret attended (site.directory, [])
    pure (asked, ⟨Function.update site.sessions place s, d⟩)
  | .addUser user password, site =>
    pure ([], { site with directory := site.directory.addUser user password })
  | .addDevice registration, site =>
    pure ([], { site with directory := site.directory.addDevice registration })
  | .record registration, site =>
    pure ([⟨.record registration, (site.directory.record registration).1⟩],
      { site with directory := (site.directory.record registration).2 })

/-- A step of a login asks the directory of the site, which answers; everybody else may answer anything. -/
theorem login_yields {configuration : Configuration} {place : Nat} {step : LoginStep}
    {site site' : Site} {asked : List Inquiry} {h : List (Exchange surroundings)}
    (hy : (Deed.act configuration (.login place step) site).Yields h (asked, site')) :
    ∃ full, (step.act configuration (site.sessions place)).Yields full (site'.sessions place) ∧
      h = outsideOf full ∧ asked = inquiriesOf full ∧
      Answers site.directory asked site'.directory := by
  obtain ⟨⟨s', d', _⟩, _, _, rfl, hy₁, rfl, he⟩ := Program.yields_bind.1 hy
  cases he
  obtain ⟨full, hfull, rfl, rfl, hd⟩ := yields_attended hy₁
  refine ⟨full, ?_, List.append_nil _, rfl, hd⟩
  show (step.act configuration _).Yields full (Function.update site.sessions place s' place)
  rwa [Function.update_self]

/-- Something done at a site, what the server was asked and what the directory was asked. -/
abbrev SiteTurn := Turn surroundings Deed Site (List Inquiry)

end TwoStepLogin.Login
