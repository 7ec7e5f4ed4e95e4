import ImageTags.Calendar.Instant

/-!
# Time zones

A zone says for every instant how far its clock is ahead of UTC.  Its history is a list of eras;
in each era the offset is either fixed or goes back and forth between standard and summer time on
Sundays that a rule picks in every year.
-/

namespace ImageTags.Calendar

/-- A Sunday of a month. -/
inductive SundayChoice where
  /-- The `n`-th Sunday, from 0. -/
  | nth (n : Nat)
  /-- The last Sunday. -/
  | final
  /-- The first Sunday from a day of the month on, which may be one of the next month. -/
  | since (day : Nat)
  deriving DecidableEq, Repr

/-- The clock by which a time of day is given. -/
inductive ClockKind where
  | utc
  | standard
  | summer
  deriving DecidableEq, Repr

/-- The yearly moment at which summer time starts or stops: `daysAfter` days after a Sunday of the
month, `second` seconds after midnight by the clock named. -/
structure Switch where
  month : Nat
  sunday : SundayChoice
  daysAfter : Int
  second : Int
  clock : ClockKind
  deriving DecidableEq, Repr

/-- The number of the chosen Sunday. -/
def SundayChoice.days (choice : SundayChoice) (year : Int) (month : Nat) : Int :=
  match choice with
  | .nth n =>
    let first := Date.toDays ⟨year, month, 1⟩
    first + (7 - weekday first) % 7 + 7 * n
  | .final =>
    let first := Date.toDays ⟨year, month, 1⟩
    let last := first + (monthLengths (isLeapYear year)).getD (month - 1) 31 - 1
    last - weekday last
  | .since day =>
    let first := Date.toDays ⟨year, month, day⟩
    first + (7 - weekday first) % 7

/-- The seconds since 1970 at which a switch takes place in a year. -/
def Switch.seconds (s : Switch) (standard summer : Int) (year : Int) : Int :=
  let behind :=
    match s.clock with
    | .utc => 0
    | .standard => standard
    | .summer => summer
  (s.sunday.days year s.month + s.daysAfter - epochDay) * 86400 + s.second - behind

/-- How a clock is set during an era. -/
inductive Regime where
  | fixed (offset : Int)
  | seasonal (standard summer : Int) (start stop : Switch)
  deriving DecidableEq, Repr

/-- The offset that a regime gives for an instant.  Where the summer reaches over the turn of the
year, it starts later in the year than it stops. -/
def Regime.offsetAt : Regime → Int → Int
  | .fixed offset, _ => offset
  | .seasonal standard summer start stop, seconds =>
    let year := yearOf (epochDay + (seconds + standard) / 86400)
    let starts := start.seconds standard summer year
    let stops := stop.seconds standard summer year
    let isSummer :=
      if starts ≤ stops then starts ≤ seconds ∧ seconds < stops
      else starts ≤ seconds ∨ seconds < stops
    if isSummer then summer else standard

/-- A zone: the regime before all dates and those that follow it, each with the second since 1970
at which it begins. -/
structure Zone where
  before : Regime
  eras : List (Int × Regime)
  deriving DecidableEq, Repr

/-- How far the clock of a zone is ahead of UTC at a second since 1970. -/
def Zone.offsetAt (z : Zone) (seconds : Int) : Int :=
  let regime := z.eras.foldl (fun r era => if era.1 ≤ seconds then era.2 else r) z.before
  regime.offsetAt seconds

/-- A zone whose clock never changes. -/
def Zone.fixed (offset : Int) : Zone := ⟨.fixed offset, []⟩

/-- The zone whose clock is always at UTC. -/
def Zone.utc : Zone := fixed 0

/-- What the clock of a zone shows at an instant. -/
def Zone.read (z : Zone) (t : Instant) : ClockReading :=
  ⟨t, z.offsetAt t.seconds⟩

/-- The zones that can be asked for by name. -/
class Zones where
  ofName? : String → Option Zone

end ImageTags.Calendar
