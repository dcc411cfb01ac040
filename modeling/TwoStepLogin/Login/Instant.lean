/-!
# Points in time

* `Instant` — a point in time, in nanoseconds from a fixed origin;
* `Span` — a difference of two such points;
* `Instant.since` — how long ago an instant was.
-/

set_option autoImplicit false

namespace TwoStepLogin

/-- A point in time. -/
structure Instant where
  nanoseconds : Int
  deriving DecidableEq, Repr

/-- A length of time, possibly negative. -/
structure Span where
  nanoseconds : Int
  deriving DecidableEq, Repr

/-- A number of minutes. -/
def Span.ofMinutes (minutes : Int) : Span := ⟨minutes * 60000000000⟩

/-- The time from `earlier` to `now`. -/
def Instant.since (now earlier : Instant) : Span := ⟨now.nanoseconds - earlier.nanoseconds⟩

/-- Whether a span is longer than another. -/
def Span.exceeds (a b : Span) : Bool := b.nanoseconds < a.nanoseconds

/-- A later or equal instant. -/
def Instant.after (now : Instant) (span : Nat) : Instant := ⟨now.nanoseconds + span⟩

theorem Span.exceeds_iff (a b : Span) : a.exceeds b = true ↔ b.nanoseconds < a.nanoseconds := by
  simp [Span.exceeds]

end TwoStepLogin
