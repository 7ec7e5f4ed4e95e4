import ImageTags.Calendar.Format

/-!
# Internet timestamps

Date and time in the form `2020-01-10T00:30:05.123Z`.  The reader takes the variants that the form
allows: a small letter or a space between date and time, any number of decimals, and an offset from
UTC in place of `Z`.  A second 60 is a leap second.
-/

namespace ImageTags.Calendar

/-- The value of a run of exactly `width` digits at the start of a text, and what follows. -/
def readDigits? (width : Nat) (cs : List Char) : Option (Nat × List Char) :=
  let digits := cs.take width
  if digits.length = width ∧ digits.all Char.isDigit then
    some (Numeral.value digits, cs.drop width)
  else none

/-- What follows the character `c` in a text that starts with it. -/
def skip? (c : Char) (cs : List Char) : Option (List Char) :=
  Text.stripStart? [c] cs

/-- The nanoseconds that a non-empty run of decimals stands for; decimals after the ninth do not
count. -/
def nanosecondsOf (decimals : List Char) : Nat :=
  let kept := decimals.take 9
  Numeral.value (kept ++ List.replicate (9 - kept.length) '0')

/-- Reads the decimals of a second, which may be missing. -/
def readDecimals? (cs : List Char) : Option (Nat × List Char) :=
  match skip? '.' cs with
  | none => some (0, cs)
  | some cs =>
    let (decimals, rest) := Numeral.spanDigits cs
    if decimals = [] then none else some (nanosecondsOf decimals, rest)

/-- Reads an offset from UTC, in seconds, that ends the text. -/
def readOffset? : List Char → Option Int
  | [] => none
  | c :: cs =>
    if c = 'Z' ∨ c = 'z' then if cs = [] then some 0 else none
    else if c = '+' ∨ c = '-' ∨ c = '\u2212' then do
      let (hours, cs) ← readDigits? 2 cs
      let cs ← skip? ':' cs
      let (minutes, cs) ← readDigits? 2 cs
      if hours ≤ 23 ∧ minutes ≤ 59 ∧ cs = [] then
        let seconds : Int := hours * 3600 + minutes * 60
        some (if c = '+' then seconds else -seconds)
      else none
    else none

/-- Reads a date of ten characters. -/
def readDate? (cs : List Char) : Option (Date × List Char) := do
  let (year, cs) ← readDigits? 4 cs
  let cs ← skip? '-' cs
  let (month, cs) ← readDigits? 2 cs
  let cs ← skip? '-' cs
  let (day, cs) ← readDigits? 2 cs
  let date : Date := ⟨year, month, day⟩
  if date.isValid then some (date, cs) else none

/-- Reads a time of day in seconds, with the nanoseconds; second 60 is second 59 and a further
second in nanoseconds. -/
def readTime? (cs : List Char) : Option (Nat × Nat × List Char) := do
  let (hour, cs) ← readDigits? 2 cs
  let cs ← skip? ':' cs
  let (minute, cs) ← readDigits? 2 cs
  let cs ← skip? ':' cs
  let (second, cs) ← readDigits? 2 cs
  let (nanoseconds, cs) ← readDecimals? cs
  if hour ≤ 23 ∧ minute ≤ 59 ∧ second ≤ 60 then
    if second = 60 then some (hour * 3600 + minute * 60 + 59, nanoseconds + 1000000000, cs)
    else some (hour * 3600 + minute * 60 + second, nanoseconds, cs)
  else none

/-- Reads a timestamp. -/
def Instant.ofTimestamp? (cs : List Char) : Option Instant := do
  let (date, cs) ← readDate? cs
  match cs with
  | [] => none
  | c :: cs =>
    if c = 'T' ∨ c = 't' ∨ c = ' ' then do
      let (second, nanoseconds, cs) ← readTime? cs
      let offset ← readOffset? cs
      some ⟨(date.toDays - epochDay) * 86400 + second - offset, nanoseconds⟩
    else none

/-- The year of a timestamp: four digits, or a sign and at least four digits outside of the years
0 to 9999. -/
def yearText (year : Int) : List Char :=
  if 0 ≤ year ∧ year ≤ 9999 then Numeral.padded 4 (Numeral.ofNat year.natAbs)
  else (if year < 0 then '-' else '+') :: Numeral.padded 4 (Numeral.ofNat year.natAbs)

/-- An instant as a timestamp in UTC with milliseconds; a leap second is second 60. -/
def Instant.timestamp (t : Instant) : List Char :=
  let r : ClockReading := ⟨t, 0⟩
  let two (n : Nat) := Numeral.padded 2 (Numeral.ofNat n)
  let second := if t.isLeap then r.second + 1 else r.second
  yearText r.date.year ++ '-' :: two r.date.month ++ '-' :: two r.date.day ++
    'T' :: two r.hour ++ ':' :: two r.minute ++ ':' :: two second ++
    '.' :: Numeral.padded 3 (Numeral.ofNat (t.millis % 1000)) ++ ['Z']

end ImageTags.Calendar
