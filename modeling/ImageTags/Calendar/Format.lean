import ImageTags.Calendar.Instant
import ImageTags.Numeral
import ImageTags.Text.Split

/-!
# Date formats

A date format is a text in which certain groups of letters stand for parts of a clock reading.
Text in square brackets is copied without them; a bracket that is never closed copies all that
follows, itself included; any other character stands for itself.

`segments` cuts a format into tokens and literal text, always taking the longest token;
`formatDate` puts the rendered segments together.
-/

namespace ImageTags.Calendar

/-- The parts of a clock reading that a format can ask for. -/
inductive DateToken where
  | fullYear | monthName | paddedDayOfYear | weekdayName
  | millis | shortMonthName | dayOfYear | shortWeekdayName
  | shortYear | paddedMonth | paddedDay | ordinalDay
  | paddedHour | paddedHour12 | paddedMinute | paddedSecond | hundredths | plainOffset
  | quarter | month | day | weekday | hour | hour12 | minute | second | tenths
  | upperHalf | lowerHalf | offset | seconds | milliseconds
  deriving DecidableEq, Repr

namespace DateToken

/-- The letters that stand for a token. -/
def text : DateToken → String
  | fullYear => "YYYY" | monthName => "MMMM" | paddedDayOfYear => "DDDD" | weekdayName => "dddd"
  | millis => "SSS" | shortMonthName => "MMM" | dayOfYear => "DDD" | shortWeekdayName => "ddd"
  | shortYear => "YY" | paddedMonth => "MM" | paddedDay => "DD" | ordinalDay => "Do"
  | paddedHour => "HH" | paddedHour12 => "hh" | paddedMinute => "mm" | paddedSecond => "ss"
  | hundredths => "SS" | plainOffset => "ZZ"
  | quarter => "Q" | month => "M" | day => "D" | weekday => "d" | hour => "H" | hour12 => "h"
  | minute => "m" | second => "s" | tenths => "S"
  | upperHalf => "A" | lowerHalf => "a" | offset => "Z" | seconds => "X" | milliseconds => "x"

/-- All tokens, the longer ones first. -/
def all : List DateToken :=
  [fullYear, monthName, paddedDayOfYear, weekdayName,
   millis, shortMonthName, dayOfYear, shortWeekdayName,
   shortYear, paddedMonth, paddedDay, ordinalDay,
   paddedHour, paddedHour12, paddedMinute, paddedSecond, hundredths, plainOffset,
   quarter, month, day, weekday, hour, hour12, minute, second, tenths,
   upperHalf, lowerHalf, offset, seconds, milliseconds]

/-- The longest token at the start of a text, with what follows it. -/
def read? (cs : List Char) : Option (DateToken × List Char) :=
  all.findSome? fun token => (Text.stripStart? token.text.toList cs).map fun rest => (token, rest)

end DateToken

/-- The English names of the months. -/
def monthNames : List String :=
  ["January", "February", "March", "April", "May", "June", "July", "August", "September",
   "October", "November", "December"]

/-- The English names of the days of the week, from Sunday. -/
def weekdayNames : List String :=
  ["Sunday", "Monday", "Tuesday", "Wednesday", "Thursday", "Friday", "Saturday"]

/-- The ending of an English ordinal number. -/
def ordinalEnding (n : Nat) : String :=
  if 11 ≤ n % 100 ∧ n % 100 ≤ 13 then "th"
  else
    match n % 10 with
    | 1 => "st"
    | 2 => "nd"
    | 3 => "rd"
    | _ => "th"

/-- An offset from UTC in hours and minutes, with `separator` between them; seconds are dropped. -/
def offsetText (separator : List Char) (offset : Int) : List Char :=
  let minutes := offset.natAbs / 60
  (if offset < 0 then '-' else '+') :: Numeral.padded 2 (Numeral.ofNat (minutes / 60)) ++
    separator ++ Numeral.padded 2 (Numeral.ofNat (minutes % 60))

/-- The hour of a clock with twelve hours. -/
def hourOf12 (hour : Nat) : Nat :=
  if hour % 12 = 0 then 12 else hour % 12

/-- The text of a token for a clock reading. -/
def DateToken.render (r : ClockReading) : DateToken → List Char
  | fullYear => Numeral.paddedInt 4 r.date.year
  | shortYear => Numeral.padded 2 (Numeral.ofNat (r.date.year % 100).toNat)
  | quarter => Numeral.ofNat ((r.date.month - 1) / 3 + 1)
  | monthName => (monthNames.getD (r.date.month - 1) "").toList
  | shortMonthName => (monthNames.getD (r.date.month - 1) "").toList.take 3
  | paddedMonth => Numeral.padded 2 (Numeral.ofNat r.date.month)
  | month => Numeral.ofNat r.date.month
  | paddedDayOfYear => Numeral.padded 3 (Numeral.ofNat (Date.ordinalOf r.days))
  | dayOfYear => Numeral.ofNat (Date.ordinalOf r.days)
  | paddedDay => Numeral.padded 2 (Numeral.ofNat r.date.day)
  | day => Numeral.ofNat r.date.day
  | ordinalDay => Numeral.ofNat r.date.day ++ (ordinalEnding r.date.day).toList
  | weekdayName => (weekdayNames.getD r.weekday "").toList
  | shortWeekdayName => (weekdayNames.getD r.weekday "").toList.take 3
  | weekday => Numeral.ofNat r.weekday
  | paddedHour => Numeral.padded 2 (Numeral.ofNat r.hour)
  | hour => Numeral.ofNat r.hour
  | paddedHour12 => Numeral.padded 2 (Numeral.ofNat (hourOf12 r.hour))
  | hour12 => Numeral.ofNat (hourOf12 r.hour)
  | paddedMinute => Numeral.padded 2 (Numeral.ofNat r.minute)
  | minute => Numeral.ofNat r.minute
  | paddedSecond => Numeral.padded 2 (Numeral.ofNat r.second)
  | second => Numeral.ofNat r.second
  | millis => Numeral.padded 3 (Numeral.ofNat r.instant.millis)
  | hundredths => Numeral.padded 2 (Numeral.ofNat (r.instant.millis / 10))
  | tenths => Numeral.ofNat (r.instant.millis / 100)
  | upperHalf => if r.hour < 12 then ['A', 'M'] else ['P', 'M']
  | lowerHalf => if r.hour < 12 then ['a', 'm'] else ['p', 'm']
  | offset => offsetText [':'] r.offset
  | plainOffset => offsetText [] r.offset
  | seconds => Numeral.ofInt r.instant.seconds
  | milliseconds => Numeral.ofInt (r.instant.seconds * 1000 + r.instant.millis)

/-- A piece of a date format. -/
inductive DateSegment where
  | literal (text : List Char)
  | token (token : DateToken)
  deriving DecidableEq, Repr

/-- The text of a segment for a clock reading. -/
def DateSegment.render (r : ClockReading) : DateSegment → List Char
  | literal text => text
  | token t => t.render r

/-- The first segment of a format that is not empty, and the rest of the format. -/
def firstSegment (c : Char) (cs : List Char) : DateSegment × List Char :=
  if c = '[' then
    match Text.splitFirst? ']' cs with
    | some (inside, rest) => (.literal inside, rest)
    | none => (.literal (c :: cs), [])
  else
    match DateToken.read? (c :: cs) with
    | some (token, rest) => (.token token, rest)
    | none => (.literal [c], cs)

theorem length_of_splitFirst? {sep : Char} {cs before after : List Char}
    (h : Text.splitFirst? sep cs = some (before, after)) : after.length < cs.length := by
  rw [(Text.splitFirst?_eq_some_iff.1 h).1, List.length_append, List.length_cons]
  omega

theorem DateToken.length_of_read? {cs rest : List Char} {token : DateToken}
    (h : DateToken.read? cs = some (token, rest)) : rest.length < cs.length := by
  obtain ⟨t, -, ht⟩ := List.exists_of_findSome?_eq_some h
  simp only [Option.map_eq_some_iff, Prod.mk.injEq] at ht
  obtain ⟨r, hr, rfl, rfl⟩ := ht
  rw [Text.stripStart?_eq_some_iff.1 hr, List.length_append]
  have : 0 < t.text.toList.length := by cases t <;> decide
  omega

theorem length_firstSegment_lt (c : Char) (cs : List Char) :
    (firstSegment c cs).2.length < (c :: cs).length := by
  unfold firstSegment
  split
  · split
    · next h => exact Nat.lt_succ_of_lt (length_of_splitFirst? h)
    · simp
  · split
    · next h => exact DateToken.length_of_read? h
    · simp

/-- The segments of a format, from left to right. -/
def segments : List Char → List DateSegment
  | [] => []
  | c :: cs => (firstSegment c cs).1 :: segments (firstSegment c cs).2
termination_by cs => cs.length
decreasing_by exact length_firstSegment_lt c cs

/-- A clock reading written in a format. -/
def formatDate (r : ClockReading) (format : List Char) : List Char :=
  (segments format).flatMap (·.render r)

/-- The format of a date for which none is given. -/
def defaultFormat : String := "YYYY-MM-DDTHH:mm:ssZ"

end ImageTags.Calendar
