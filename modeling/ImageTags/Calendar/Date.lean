/-!
# Dates of the Gregorian calendar

Days are numbered from the first of January of the year 0, forward and backward, and the calendar
is followed in both directions.  `daysBefore` says on which day a year starts; `yearOf` finds the
year that a day lies in, and the two bounds `daysBefore_yearOf_le` and `lt_daysBefore_yearOf` say
that it finds the right one.
-/

namespace ImageTags.Calendar

/-- The number of the day on which a year starts. -/
def daysBefore (year : Int) : Int :=
  365 * year + (year + 3) / 4 - (year + 99) / 100 + (year + 399) / 400

/-- Every fourth year has a day more, of the hundredth years only every fourth. -/
def isLeapYear (year : Int) : Bool :=
  year % 4 == 0 && (year % 100 != 0 || year % 400 == 0)

/-- The year that a day lies in. -/
def yearOf (day : Int) : Int :=
  let year := (400 * day - 1000) / 146097
  if daysBefore (year + 1) ≤ day then year + 1 else year

theorem daysBefore_yearOf_le (day : Int) : daysBefore (yearOf day) ≤ day := by
  dsimp only [yearOf]
  split
  · assumption
  · simp only [daysBefore] at *; omega

theorem lt_daysBefore_yearOf (day : Int) : day < daysBefore (yearOf day + 1) := by
  dsimp only [yearOf]
  split
  · simp only [daysBefore] at *; omega
  · omega

/-- The lengths of the months of a year. -/
def monthLengths (leap : Bool) : List Nat :=
  [31, if leap then 29 else 28, 31, 30, 31, 30, 31, 31, 30, 31, 30, 31]

/-- The month, counted from `month`, and the day of the month, counted from 1, of the day that
comes `n` days after the first of these months begins. -/
def splitMonths (month : Nat) : List Nat → Nat → Nat × Nat
  | [], n => (month, n + 1)
  | length :: lengths, n =>
    if n < length then (month, n + 1) else splitMonths (month + 1) lengths (n - length)

/-- A day of the calendar. -/
structure Date where
  year : Int
  month : Nat
  day : Nat
  deriving DecidableEq, Repr

namespace Date

/-- The place of a day in its year, counted from 1. -/
def ordinalOf (day : Int) : Nat :=
  (day - daysBefore (yearOf day)).toNat + 1

/-- The date of a numbered day. -/
def ofDays (day : Int) : Date :=
  let year := yearOf day
  let (month, dayOfMonth) := splitMonths 1 (monthLengths (isLeapYear year)) (ordinalOf day - 1)
  ⟨year, month, dayOfMonth⟩

/-- The days of a year before its `month`. -/
def daysBeforeMonth (leap : Bool) (month : Nat) : Nat :=
  ((monthLengths leap).take (month - 1)).foldl (· + ·) 0

/-- The number of the day with a date. -/
def toDays (d : Date) : Int :=
  daysBefore d.year + daysBeforeMonth (isLeapYear d.year) d.month + d.day - 1

/-- Whether the month and the day of the month exist. -/
def isValid (d : Date) : Bool :=
  match (monthLengths (isLeapYear d.year))[d.month - 1]? with
  | some length => 1 ≤ d.month && 1 ≤ d.day && d.day ≤ length
  | none => false

end Date

/-- The number of the day from which time is counted, the first of January 1970. -/
def epochDay : Int := daysBefore 1970

/-- The day of the week, from Sunday as 0. -/
def weekday (day : Int) : Nat :=
  ((day - epochDay + 4) % 7).toNat

end ImageTags.Calendar
