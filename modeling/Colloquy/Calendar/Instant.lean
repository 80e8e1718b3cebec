/-!
# Instants

Points in time, in whole seconds and nanoseconds since the start of 1970 in universal time. A leap
second is the second before it with a nanosecond count of a thousand million and more.
-/

namespace Colloquy

/-- A point in time. -/
structure Instant where
  seconds : Int
  nanoseconds : Nat
  deriving DecidableEq, Repr, Inhabited

namespace Instant

/-- Nanoseconds in a second. -/
def nanosecondsPerSecond : Nat := 1000000000

/-- The moment as a count of nanoseconds. -/
def count (instant : Instant) : Int :=
  instant.seconds * nanosecondsPerSecond + instant.nanoseconds

/-- Seconds in a day. -/
def secondsPerDay : Int := 86400

/-- Seconds since the start of the day. -/
def secondOfDay (instant : Instant) : Int :=
  instant.seconds % secondsPerDay

/-- Whether the instant lies in a leap second. -/
def inLeapSecond (instant : Instant) : Bool :=
  nanosecondsPerSecond ≤ instant.nanoseconds

/-- The leap second to count between two times of day: one if the earlier time of day lies in a
leap second, minus one if the later instant's time of day is the earlier one and does. -/
def leapCorrection (later earlier : Instant) : Int :=
  if earlier.secondOfDay < later.secondOfDay ∧ earlier.inLeapSecond then 1
  else if later.secondOfDay < earlier.secondOfDay ∧ later.inLeapSecond then -1
  else 0

/-- The whole seconds from one instant to another, cut off toward zero. -/
def secondsSince (later earlier : Instant) : Int :=
  (later.count - earlier.count + later.leapCorrection earlier * nanosecondsPerSecond).tdiv
    nanosecondsPerSecond

end Instant

end Colloquy
