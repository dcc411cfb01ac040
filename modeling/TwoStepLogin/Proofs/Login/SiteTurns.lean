import TwoStepLogin.Proofs.Login.SharedDirectory

/-!
# Submissions at a site

Browsers submit to the sessions of a site in any order. Every submission concerns one session; the
others only share the directory with it.

* `Login.Posting`, `Login.Site.post` — something is submitted to the session at a place;
* `Login.Posted` — what comes of it, with the whole conversation including the directory's part;
* `Login.post_yields_iff` — all of this can come of it, and nothing else;
* `Login.played_at` — the submissions at one place are a conversation with the session there;
* `Login.entries_of_played` — nobody becomes a user by logging in.
-/

set_option autoImplicit false

namespace TwoStepLogin.Login

open Directory (Inquiry Answers)

/-- Something is submitted to the session at a place. -/
structure Posting where
  place : Nat
  submission : Submission
  deriving DecidableEq, Repr

/-- Submit it; the directory of the site is at hand. -/
def Site.post (configuration : Configuration) (a : Posting) (site : Site) :
    Action (StepOutcome × Site) := do
  let ((outcome, s), d, _) ←
    ((deviceFlow configuration).submit a.submission (site.sessions a.place)).interpret attended
      (site.directory, [])
  pure (outcome, ⟨Function.update site.sessions a.place s, d⟩)

/-- Something was submitted at a site, and what came of it. -/
abbrev PostingTurn := Turn surroundings Posting Site StepOutcome

/-- What comes of a submission at a place. In the whole conversation the directory of the site gives its
answers. -/
structure Posted (configuration : Configuration) (a : Posting) (site : Site)
    (full : List (Exchange surroundings)) (outcome : StepOutcome) (site' : Site) : Prop where
  yields : ((deviceFlow configuration).submit a.submission (site.sessions a.place)).Yields full
    (outcome, site'.sessions a.place)
  answers : Answers site.directory (inquiriesOf full) site'.directory
  others : ∀ place, place ≠ a.place → site'.sessions place = site.sessions place

variable {configuration : Configuration} {a : Posting} {site site' : Site} {place : Nat}
  {h full : List (Exchange surroundings)} {outcome : StepOutcome} {s s' : Session}

/-- A conversation in which the directory gives its answers is one with a directory at hand. -/
theorem attended_yields {α : Type} {p : Action α} {d d' : Directory} {v : α}
    (hy : p.Yields h v) (ha : Answers d (inquiriesOf h) d') (asked : List Inquiry) :
    (p.interpret attended (d, asked)).Yields (outsideOf h) (v, d', asked ++ inquiriesOf h) := by
  induction p generalizing d asked h with
  | done _ =>
    obtain ⟨rfl, rfl⟩ := hy
    obtain rfl : d' = d := ha
    exact ⟨rfl, by rw [inquiriesOf, List.filterMap_nil, List.append_nil]⟩
  | note r p ih => exact ih hy ha asked
  | ask question k ih =>
    obtain ⟨answer, rest, rfl, hk⟩ := hy
    cases question with
    | directory query =>
      obtain ⟨rfl, hrest⟩ := ha
      have hy := ih _ hk hrest (asked ++ [⟨query, (d.respond query).1⟩])
      rw [List.append_assoc] at hy
      exact hy
    | fido call => exact ⟨answer, outsideOf rest, rfl, ih answer hk ha asked⟩
    | pause milliseconds => exact ⟨answer, outsideOf rest, rfl, ih answer hk ha asked⟩

/-- This can come of a submission, and nothing else. -/
theorem post_yields_iff : (Site.post configuration a site).Yields h (outcome, site') ↔
    ∃ full, Posted configuration a site full outcome site' ∧ h = outsideOf full := by
  constructor
  · intro hy
    obtain ⟨⟨⟨_, s⟩, d, _⟩, _, _, rfl, hy₁, rfl, he⟩ := Program.yields_bind.1 hy
    cases he
    obtain ⟨full, hfull, rfl, -, hd⟩ := yields_attended hy₁
    refine ⟨full, ⟨?_, hd, fun place hne => ?_⟩, List.append_nil _⟩
    · show ((deviceFlow configuration).submit a.submission _).Yields full
        (outcome, Function.update site.sessions a.place s a.place)
      rwa [Function.update_self]
    · exact Function.update_of_ne hne _ _
  · rintro ⟨full, hp, rfl⟩
    have hy := attended_yields hp.yields hp.answers []
    refine Program.yields_bind.2 ⟨_, outsideOf full, [], (List.append_nil _).symm, hy, rfl, ?_⟩
    have hsessions : site'.sessions =
        Function.update site.sessions a.place (site'.sessions a.place) := by
      funext place
      by_cases hp' : place = a.place
      · rw [hp', Function.update_self]
      · rw [Function.update_of_ne hp', hp.others place hp']
    show (outcome, site') = (outcome, ⟨Function.update site.sessions a.place _, site'.directory⟩)
    rw [← hsessions]

/-! ## Runs -/

/-- The submissions at one place are a conversation with the session there. -/
theorem played_at {turns : List PostingTurn}
    (hplay : Played (Site.post configuration) site turns site') (place : Nat) :
    ∃ own : List (Turn surroundings Submission Session StepOutcome),
      Played (deviceFlow configuration).submit (site.sessions place) own (site'.sessions place) := by
  induction hplay with
  | nil => exact ⟨[], .nil⟩
  | @snoc turns t _ hy ih =>
    obtain ⟨own, hown⟩ := ih
    obtain ⟨full, hp, -⟩ := post_yields_iff.1 hy
    by_cases hplace : place = t.command.place
    · subst hplace
      exact ⟨_, hown.snoc (t := ⟨t.command.submission, _, full, t.reply, _⟩) hp.yields⟩
    · rw [hp.others place hplace]
      exact ⟨own, hown⟩

/-- Nobody becomes a user by logging in. -/
theorem entries_of_played {turns : List PostingTurn}
    (hplay : Played (Site.post configuration) site turns site') :
    site'.directory.entries = site.directory.entries := by
  induction hplay with
  | nil => rfl
  | snoc _ hy ih =>
    obtain ⟨_, hp, -⟩ := post_yields_iff.1 hy
    exact hp.answers.entries_eq.trans ih

end TwoStepLogin.Login
