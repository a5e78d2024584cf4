/-!
# Instants and time ranges

An instant is a count of whole seconds since 1970-01-01T00:00:00 UTC, rounded down, and the
nanoseconds that have passed since. A leap second has no whole second of its own: it prolongs
the second before it, and its nanoseconds start at one billion.
-/

namespace QueryFrame

/-- A point of time in UTC. -/
structure Instant where
  seconds : Int
  nanos : Nat
  nanos_lt : nanos < 2000000000 := by decide
  deriving DecidableEq, Repr

namespace Instant

def epoch : Instant := { seconds := 0, nanos := 0 }

/-- The whole microseconds since the epoch, rounded down. -/
def micros (t : Instant) : Int := t.seconds * 1000000 + (t.nanos / 1000 : Nat)

def ofMicros (n : Int) : Instant :=
  { seconds := n / 1000000, nanos := (n % 1000000).toNat * 1000, nanos_lt := by omega }

/-- The midnight that begins a day, counted in days since the epoch. -/
def midnight (day : Int) : Instant := { seconds := day * 86400, nanos := 0 }

/-- The instant of a time of day on a day, if a clock shows that time. -/
def onDay? (day : Int) (hour minute second : Nat) : Option Instant :=
  if hour < 24 ∧ minute < 60 ∧ second < 60 then
    some { seconds := day * 86400 + (hour * 3600 + minute * 60 + second : Nat), nanos := 0 }
  else none

/-- The first second of the calendar, which begins with the year -262143. -/
def firstSecond : Int := -8334601228800

/-- The last second of the calendar, which ends with the year 262142. -/
def lastSecond : Int := 8210266876799

/-- The instants that the calendar has a date for. -/
def InCalendar (t : Instant) : Prop := firstSecond ≤ t.seconds ∧ t.seconds ≤ lastSecond

instance (t : Instant) : Decidable t.InCalendar := inferInstanceAs (Decidable (_ ∧ _))

/-- The order of instants: by whole seconds, then by nanoseconds. A leap second comes before the
second after it. -/
instance : LE Instant where
  le s t := s.seconds < t.seconds ∨ (s.seconds = t.seconds ∧ s.nanos ≤ t.nanos)

instance (s t : Instant) : Decidable (s ≤ t) := inferInstanceAs (Decidable (_ ∨ _))

end Instant

/-- A reading of a local clock together with the clock's distance from UTC. -/
structure ZonedTime where
  /-- Whole seconds from 1970-01-01T00:00:00 on the local clock to the reading. -/
  wall : Int
  nanos : Nat
  /-- Seconds by which the local clock is ahead of UTC. -/
  offset : Int
  nanos_lt : nanos < 2000000000 := by decide
  deriving DecidableEq, Repr

def ZonedTime.instant (z : ZonedTime) : Instant :=
  { seconds := z.wall - z.offset, nanos := z.nanos, nanos_lt := z.nanos_lt }

/-- The instants from which and up to which a query looks at the data. -/
structure TimeRange where
  start : Instant
  stop : Instant
  deriving DecidableEq, Repr

def TimeRange.between (first last : ZonedTime) : TimeRange := ⟨first.instant, last.instant⟩

end QueryFrame
