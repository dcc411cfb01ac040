import Mathlib.Data.List.Induction
import TwoStepLogin.Proofs.Login.MirroredTurns

/-!
# Logins that do not meet

Sessions of different users share a directory, and yet none of them can tell whether the others are
there. Everything that happens at a place is what would have happened without the other places, and
the devices that are registered in the end do not depend on who came first.

* `Login.postingsAt`, `Login.viewAt` — what is submitted at a place, and what is seen there;
* `Login.Site.after` — the site after some submissions, when the server remembers nothing;
* `Login.Apart` — at different places there are different users;
* `Login.Foreign` — somebody at another place has a certain inum;
* `Login.alike_alone` — with or without the other places, a site looks alike from each of them;
* `Login.logins_of_different_users_do_not_meet` — neither outcomes nor devices depend on the order.
-/

set_option autoImplicit false

namespace TwoStepLogin.Login

open Directory (Agree)

/-- What is submitted at a place. -/
def postingsAt (place : Nat) (postings : List Posting) : List Posting :=
  postings.filter fun a => a.place == place

/-- What is seen at a place of some turns. -/
def viewAt (place : Nat) (turns : List PostingTurn) :
    List (Turn surroundings Submission Session StepOutcome) :=
  (turns.filter fun t => t.command.place == place).map (PostingTurn.seenAt place)

/-- At different places there are users with different inums. -/
def Apart (places : List Nat) (owner : Nat → Option User) : Prop :=
  ∀ i ∈ places, ∀ j ∈ places, i ≠ j → ∀ u ∈ owner i, ∀ v ∈ owner j, u.inum ≠ v.inum

instance (places : List Nat) (owner : Nat → Option User) : Decidable (Apart places owner) :=
  inferInstanceAs (Decidable (∀ i ∈ places, ∀ j ∈ places, i ≠ j →
    ∀ u ∈ owner i, ∀ v ∈ owner j, u.inum ≠ v.inum))

/-- Somebody at another place has this inum. -/
def Foreign (places : List Nat) (owner : Nat → Option User) (place : Nat) (inum : String) : Prop :=
  ∃ other ∈ places, other ≠ place ∧ ∃ user, owner other = some user ∧ user.inum = inum

/-- The session belongs to nobody but the owner of the place. -/
def Owns (owner : Nat → Option User) (place : Nat) (s : Session) : Prop :=
  ∀ user, s.user = some user → owner place = some user

section

variable (configuration : Configuration) (server : Responder surroundings Unit) (site : Site)

/-- Submit one thing after the other. -/
def Site.playAll (postings : List Posting) : List PostingTurn :=
  play (Site.post configuration) server postings site ()

/-- The site after some submissions, when the server remembers nothing. -/
def Site.after (postings : List Posting) : Site :=
  leftAfter site (site.playAll configuration server postings)

end

variable {configuration : Configuration} {server : Responder surroundings Unit} {site site₁ : Site}
  {applicationId : String} {places : List Nat} {owner : Nat → Option User} {place : Nat}
  {a : Posting} {postings : List Posting} {P : String → Prop}

/-! ## One submission more -/

theorem playAll_snoc : site.playAll configuration server (postings ++ [a]) =
    site.playAll configuration server postings ++
      [(site.after configuration server postings).turn configuration server a] :=
  play_append _ _ _ _ _

theorem after_snoc : site.after configuration server (postings ++ [a]) =
    ((site.after configuration server postings).turn configuration server a).after := by
  rw [Site.after, playAll_snoc, leftAfter, List.foldl_append]
  rfl

theorem postingsAt_snoc_self :
    postingsAt a.place (postings ++ [a]) = postingsAt a.place postings ++ [a] := by
  simp [postingsAt]

theorem postingsAt_snoc_of_ne (h : place ≠ a.place) :
    postingsAt place (postings ++ [a]) = postingsAt place postings := by
  simp [postingsAt, Ne.symm h]

theorem viewAt_snoc_self {turns : List PostingTurn} :
    viewAt a.place (turns ++ [site.turn configuration server a]) =
      viewAt a.place turns ++ [(site.turn configuration server a).seenAt a.place] := by
  simp [viewAt, Site.turn]

theorem viewAt_snoc_of_ne {turns : List PostingTurn} (h : place ≠ a.place) :
    viewAt place (turns ++ [site.turn configuration server a]) = viewAt place turns := by
  simp [viewAt, Site.turn, Ne.symm h]

/-- Whoever owns a session now is the only one who may have owned it before. -/
theorem Owns.before
    (h : Owns owner place ((site.after configuration server (postings ++ [a])).sessions place)) :
    Owns owner place ((site.after configuration server postings).sessions place) := by
  intro user hu
  obtain ⟨full, hp, -⟩ :=
    posted_turn server configuration (site.after configuration server postings) a
  rw [after_snoc] at h
  exact h user (hp.user_kept hu)

/-- A submission at the place itself: whichever of the two sites tells whom the session belongs to. -/
theorem Alike.turn_of_owns
    (ha : configuration.attributes.get? DeviceMethod.applicationIdKey = some applicationId)
    (hs : Alike P a.place site site₁) (hP : ∀ user, owner a.place = some user → P user.inum)
    (ho : Owns owner a.place ((site.turn configuration server a).after.sessions a.place) ∨
      Owns owner a.place ((site₁.turn configuration server a).after.sessions a.place)) :
    (site₁.turn configuration server a).seenAt a.place =
        (site.turn configuration server a).seenAt a.place ∧
      Alike P a.place (site.turn configuration server a).after
        (site₁.turn configuration server a).after := by
  rcases ho with ho | ho
  · exact hs.turn server ha fun user hu => hP user (ho user hu)
  · obtain ⟨hseen, halike⟩ := hs.symm.turn server ha fun user hu => hP user (ho user hu)
    exact ⟨hseen.symm, halike.symm⟩

/-- A submission at another place. -/
theorem Alike.turn_elsewhere
    (ha : configuration.attributes.get? DeviceMethod.applicationIdKey = some applicationId)
    (hs : Alike P place site site₁) (hplace : place ≠ a.place)
    (hP : ∀ user, owner a.place = some user → ¬P user.inum)
    (ho : Owns owner a.place ((site.turn configuration server a).after.sessions a.place)) :
    Alike P place (site.turn configuration server a).after site₁ := by
  obtain ⟨full, hp, -⟩ := posted_turn server configuration site a
  refine ⟨(hp.others place hplace).trans hs.session_eq, ?_⟩
  exact (agree_turn server ha fun user hu => hP user (ho user hu)).symm.trans hs.agree

/-! ## Whose inums are foreign -/

theorem Apart.not_foreign (h : Apart places owner) (hp : place ∈ places) {user : User}
    (hu : owner place = some user) : ¬Foreign places owner place user.inum := by
  rintro ⟨other, hother, hne, foreigner, hf, he⟩
  exact h other hother place hp hne foreigner hf user hu he

theorem foreign_of_owner {other : Nat} (ho : other ∈ places) (hne : other ≠ place) {user : User}
    (hu : owner other = some user) : Foreign places owner place user.inum :=
  ⟨other, ho, hne, user, hu, rfl⟩

/-- For every inum there is a place where it is not foreign. -/
theorem Apart.exists_not_foreign (h : Apart places owner) (inum : String) :
    ∃ place, ¬Foreign places owner place inum := by
  by_cases hf : Foreign places owner 0 inum
  · obtain ⟨other, hother, -, user, hu, rfl⟩ := hf
    exact ⟨other, h.not_foreign hother hu⟩
  · exact ⟨0, hf⟩

/-! ## All submissions -/

/-- With or without what is submitted elsewhere, a site looks alike from each place, and so does all
that happened. It is enough to know one way or the other whom the sessions belong to in the end. -/
theorem alike_alone (server : Responder surroundings Unit) (site : Site)
    (ha : configuration.attributes.get? DeviceMethod.applicationIdKey = some applicationId)
    (hapart : Apart places owner) (hplaces : ∀ a ∈ postings, a.place ∈ places)
    (ho : ∀ place, Owns owner place ((site.after configuration server postings).sessions place) ∨
      Owns owner place
        ((site.after configuration server (postingsAt place postings)).sessions place)) :
    ∀ place, Alike (fun inum => ¬Foreign places owner place inum) place
        (site.after configuration server postings)
        (site.after configuration server (postingsAt place postings)) ∧
      viewAt place (site.playAll configuration server postings) =
        viewAt place (site.playAll configuration server (postingsAt place postings)) := by
  induction postings using List.reverseRecOn with
  | nil => exact fun place => ⟨⟨rfl, .refl _ _⟩, rfl⟩
  | append_singleton postings a ih =>
    obtain ⟨hfront, hlast⟩ := List.forall_mem_append.1 hplaces
    have hmem : a.place ∈ places := hlast a List.mem_cons_self
    have hbefore := ih hfront fun place => by
      refine (ho place).imp Owns.before fun h => ?_
      by_cases hplace : place = a.place
      · subst hplace
        rw [postingsAt_snoc_self] at h
        exact h.before
      · rwa [postingsAt_snoc_of_ne hplace] at h
    -- First the place of the submission itself,
    have hself := ho a.place
    rw [postingsAt_snoc_self, after_snoc, after_snoc] at hself
    obtain ⟨hseen, hafter⟩ :=
      (hbefore a.place).1.turn_of_owns ha (fun user => hapart.not_foreign hmem) hself
    -- where it does not matter any more which site is looked at.
    have howns : Owns owner a.place
        (((site.after configuration server postings).turn configuration server a).after.sessions
          a.place) := by
      rcases hself with h | h
      · exact h
      · rwa [hafter.session_eq]
    intro place
    obtain ⟨halike, hview⟩ := hbefore place
    by_cases hplace : place = a.place
    · subst hplace
      rw [postingsAt_snoc_self, after_snoc, after_snoc, playAll_snoc, playAll_snoc, viewAt_snoc_self,
        viewAt_snoc_self, hview, hseen]
      exact ⟨hafter, rfl⟩
    · rw [postingsAt_snoc_of_ne hplace, after_snoc, playAll_snoc, viewAt_snoc_of_ne hplace]
      refine ⟨halike.turn_elsewhere ha hplace (fun user hu hn => hn ?_) howns, hview⟩
      exact foreign_of_owner hmem (Ne.symm hplace) hu

theorem mem_of_postingsAt_eq {others : List Posting}
    (h : ∀ place, postingsAt place others = postingsAt place postings) : ∀ a ∈ others, a ∈ postings := by
  intro a hm
  have hat : a ∈ postingsAt a.place others := List.mem_filter.2 ⟨hm, by simp⟩
  rw [h] at hat
  exact (List.mem_filter.1 hat).1

/-- Whatever is submitted around a directory in memory in whatever order, and whatever a server answers
that remembers nothing: if the sessions that something was submitted to belong to users with different
inums in the end, as far as they belong to anybody, then at each place happens what would have happened
if nothing had been submitted elsewhere; and the devices that are registered in the end are the same for
any other order that keeps the order at each place. -/
theorem logins_of_different_users_do_not_meet {τ : Type} {policy : Fido.RetryPolicy}
    {attributes : Attributes} {setup : Responder surroundings τ} {w₀ : τ}
    (hc : ((DeviceMethod.configure policy attributes).run setup w₀).value = .ok configuration)
    (server : Responder surroundings Unit) (site : Site) (postings : List Posting)
    (hapart : Apart (postings.map Posting.place)
      fun place => ((site.after configuration server postings).sessions place).user) :
    (∀ place, viewAt place (site.playAll configuration server postings) =
        viewAt place (site.playAll configuration server (postingsAt place postings)) ∧
      (site.after configuration server postings).sessions place =
        (site.after configuration server (postingsAt place postings)).sessions place) ∧
    ∀ others : List Posting, (∀ place, postingsAt place others = postingsAt place postings) →
      ∀ inum applicationId,
        (site.after configuration server others).directory.devices inum applicationId =
          (site.after configuration server postings).directory.devices inum applicationId := by
  have hyc := Program.yields_run setup (DeviceMethod.configure policy attributes) w₀
  rw [hc] at hyc
  obtain ⟨applicationId, -, ha⟩ := applicationId_of_configure hyc
  have hplaces : ∀ a ∈ postings, a.place ∈ postings.map Posting.place :=
    fun a hm => List.mem_map_of_mem hm
  have halone := alike_alone server site ha hapart hplaces fun place => .inl fun user hu => hu
  refine ⟨fun place => ⟨(halone place).2, (halone place).1.session_eq⟩, ?_⟩
  intro others hsame inum applicationId
  have hplacesOthers : ∀ a ∈ others, a.place ∈ postings.map Posting.place :=
    fun a hm => hplaces a (mem_of_postingsAt_eq hsame a hm)
  have hothers := alike_alone server site ha hapart hplacesOthers fun place => .inr fun user hu => by
    rw [hsame, ← (halone place).1.session_eq] at hu
    exact hu
  -- The devices of a user are looked at from a place where the user is not foreign.
  obtain ⟨place, hplace⟩ := hapart.exists_not_foreign inum
  have hleft := (hothers place).1.agree.devices_eq inum hplace applicationId
  rw [hsame] at hleft
  exact hleft.trans ((halone place).1.agree.devices_eq inum hplace applicationId).symm

/-- Alice and Bob enrol their devices at the same time, as they would one after the other. -/
theorem alice_and_bob_do_not_meet :
    let site : Site := ⟨fun _ => Session.start "session" ⟨0⟩, .ofSeeds
      [⟨"alice", "user-a", "inum-a", passwordDigest "secret", []⟩,
        ⟨"bob", "user-b", "inum-b", passwordDigest "hidden", []⟩]⟩
    let alice : List Posting :=
      [⟨0, .credentials ⟨"alice", "secret"⟩ .empty⟩, ⟨0, .token enrollment⟩]
    let bob : List Posting := [⟨1, .credentials ⟨"bob", "hidden"⟩ .empty⟩, ⟨1, .token enrollment⟩]
    let both : List Posting := [alice[0], bob[0], bob[1], alice[1]]
    ((site.after obligingConfiguration obliging both).sessions 0).completed = true ∧
      (site.after obligingConfiguration obliging both).sessions 0 =
        (site.after obligingConfiguration obliging alice).sessions 0 ∧
      ∀ inum applicationId,
        (site.after obligingConfiguration obliging (alice ++ bob)).directory.devices inum
            applicationId =
          (site.after obligingConfiguration obliging both).directory.devices inum applicationId := by
  intro site alice bob both
  obtain ⟨hapart, hcompleted⟩ : Apart (both.map Posting.place) (fun place =>
        ((site.after obligingConfiguration obliging both).sessions place).user) ∧
      ((site.after obligingConfiguration obliging both).sessions 0).completed = true := by
    decide +kernel
  obtain ⟨hseen, hdevices⟩ :=
    logins_of_different_users_do_not_meet configure_obliging obliging site both hapart
  have hordered : ∀ place, postingsAt place (alice ++ bob) = postingsAt place both := by
    rintro (_ | _ | place)
    · rfl
    · rfl
    · rfl
  have halice : postingsAt 0 both = alice := rfl
  have halone := (hseen 0).2
  rw [halice] at halone
  exact ⟨hcompleted, halone, hdevices (alice ++ bob) hordered⟩

end TwoStepLogin.Login
