import ImageTags.Calendar.Date

/-!
# Instants and clock readings

An instant is a count of seconds since the start of 1970 and a part of a second.  Leap seconds have
no number of their own: an instant inside one has the number of the second before and a part of
more than a second.

A clock reading is an instant together with the distance of the local clock from UTC.
-/

namespace ImageTags.Calendar

/-- A point in time.  `nanoseconds` is below 10^9, or below 2 * 10^9 inside a leap second. -/
structure Instant where
  seconds : Int
  nanoseconds : Nat
  deriving DecidableEq, Repr

/-- The start of 1970. -/
def Instant.epoch : Instant := ⟨0, 0⟩

instance : Inhabited Instant := ⟨Instant.epoch⟩

/-- The first second of the year -262143, before which the calendar does not reach. -/
def Instant.earliest : Int := -8334601228800

/-- The last second of the year 262142, after which the calendar does not reach. -/
def Instant.latest : Int := 8210266876799

/-- Thousandths of a second; in a leap second these are 1000 and more. -/
def Instant.millis (t : Instant) : Nat :=
  t.nanoseconds / 1000000

/-- Whether an instant lies inside a leap second. -/
def Instant.isLeap (t : Instant) : Bool :=
  1000000000 ≤ t.nanoseconds

/-- What a clock shows that is `offset` seconds ahead of UTC. -/
structure ClockReading where
  instant : Instant
  offset : Int
  deriving DecidableEq, Repr

namespace ClockReading

/-- Seconds since the start of 1970 as the local clock counts them. -/
def localSeconds (r : ClockReading) : Int :=
  r.instant.seconds + r.offset

/-- The number of the local day. -/
def days (r : ClockReading) : Int :=
  epochDay + r.localSeconds / 86400

/-- Seconds since local midnight. -/
def secondOfDay (r : ClockReading) : Nat :=
  (r.localSeconds % 86400).toNat

/-- The local date. -/
def date (r : ClockReading) : Date := Date.ofDays r.days

/-- The local hour, from 0 to 23. -/
def hour (r : ClockReading) : Nat := r.secondOfDay / 3600

/-- The local minute. -/
def minute (r : ClockReading) : Nat := r.secondOfDay / 60 % 60

/-- The local second; a leap second shows the one before. -/
def second (r : ClockReading) : Nat := r.secondOfDay % 60

/-- The local day of the week, from Sunday as 0. -/
def weekday (r : ClockReading) : Nat := Calendar.weekday r.days

end ClockReading

end ImageTags.Calendar
