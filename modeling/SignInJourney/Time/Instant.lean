import SignInJourney.Time.Civil

/-!
Instants of universal time to the nanosecond, from the first day of the year -262143 to the last day
of the year 262142, and spans of whole seconds. An instant inside a leap second counts 59 seconds
and more than a full second of nanoseconds. Adding a span never wraps: `Instant.add?` is `none`
outside the range.
-/

namespace SignInJourney.Time

/-- A signed number of whole seconds whose milliseconds fit 64 bits. -/
structure Span where
  seconds : Int
  lower : -9223372036854775 ≤ seconds
  upper : seconds ≤ 9223372036854775
  deriving DecidableEq, Repr

namespace Span

def ofSeconds? (n : Int) : Option Span :=
  if h : -9223372036854775 ≤ n ∧ n ≤ 9223372036854775 then some ⟨n, h.1, h.2⟩ else none

def milliseconds (s : Span) : Int :=
  1000 * s.seconds

end Span

/-- The second in which the first representable year starts. -/
def firstSecond : Int := -8334601228800

/-- The second in which the last representable year ends. -/
def lastSecond : Int := 8210266876799

structure Instant where
  /-- Seconds since the start of 1970, leap seconds not counted. -/
  seconds : Int
  nanos : Nat
  first_le : firstSecond ≤ seconds
  le_last : seconds ≤ lastSecond
  nanos_lt : nanos < 2000000000
  /-- Only the last second of a minute can be followed by a leap second. -/
  leap : 1000000000 ≤ nanos → seconds % 60 = 59
  deriving DecidableEq, Repr

namespace Instant

/-- The instant with these seconds and nanoseconds, if there is one. -/
def of? (seconds : Int) (nanos : Nat) : Option Instant :=
  if h : firstSecond ≤ seconds ∧ seconds ≤ lastSecond ∧ nanos < 2000000000 ∧
      (1000000000 ≤ nanos → seconds % 60 = 59) then
    some ⟨seconds, nanos, h.1, h.2.1, h.2.2.1, h.2.2.2⟩
  else none

/-- Later instants have more seconds, or as many and more nanoseconds. -/
instance : LT Instant where
  lt a b := a.seconds < b.seconds ∨ (a.seconds = b.seconds ∧ a.nanos < b.nanos)

instance (a b : Instant) : Decidable (a < b) :=
  inferInstanceAs (Decidable (_ ∨ _))

/-- The instant `span` later. Whole seconds are added to the second that is counted: an instant
inside a leap second leaves it for the counted second on the side it moves from. -/
def add? (t : Instant) (span : Span) : Option Instant :=
  if t.nanos < 1000000000 then of? (t.seconds + span.seconds) t.nanos
  else if 0 < span.seconds then of? (t.seconds + span.seconds) (t.nanos - 1000000000)
  else if span.seconds < 0 then of? (t.seconds + 1 + span.seconds) (t.nanos - 1000000000)
  else some t

theorem of?_eq_some {seconds : Int} {nanos : Nat} {t : Instant} (h : of? seconds nanos = some t) :
    t.seconds = seconds ∧ t.nanos = nanos := by
  unfold of? at h
  split at h
  · cases h
    exact ⟨rfl, rfl⟩
  · simp at h

theorem of?_self (t : Instant) : of? t.seconds t.nanos = some t := by
  exact dif_pos ⟨t.first_le, t.le_last, t.nanos_lt, t.leap⟩

end Instant

end SignInJourney.Time
