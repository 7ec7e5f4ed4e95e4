import Mathlib
import ImageTags.Calendar.Timestamp
import ImageTags.Proofs.CalendarDates
import ImageTags.Proofs.DateSegments
import ImageTags.Proofs.PaddedNumerals

/-!
# The widths of date tokens

Some tokens of a date format are meant to have as many digits at all times: the two digits of a
month, the three of a day of the year, the one of tenths of a second.  The calendar keeps all of
them in their width but those for parts of a second.  Inside a leap second there is more than a
second to count, and these tokens take one digit more.

* `DateToken.width?`, `DateToken.IsFraction` — the tokens with a width, and those for parts of a
  second.
* `DateToken.isDigits_render_of_not_leap`, `DateToken.isDigits_render_of_leap` — the tokens for
  parts of a second, outside of leap seconds and inside.
* **`formatDate_of_width`** — the digits of a token wherever it stands in a format.
-/

namespace ImageTags.Calendar

open Numeral

namespace DateToken

/-- The number of digits that a token is meant to have at all times. -/
def width? : DateToken → Option Nat
  | shortYear | paddedMonth | paddedDay | paddedHour | paddedHour12 | paddedMinute
  | paddedSecond | hundredths => some 2
  | paddedDayOfYear | millis => some 3
  | tenths => some 1
  | _ => none

/-- Whether a token stands for a part of a second. -/
def IsFraction (token : DateToken) : Prop :=
  token = millis ∨ token = hundredths ∨ token = tenths

instance (token : DateToken) : Decidable token.IsFraction :=
  inferInstanceAs (Decidable (_ ∨ _ ∨ _))

variable {token : DateToken} {width : Nat} {r : ClockReading}

/-! ## Parts of a date -/

lemma ordinalOf_lt (day : Int) : Date.ordinalOf day < 1000 := by
  have hle := Date.ordinalOf_le day
  rw [sum_monthLengths] at hle
  split at hle <;> omega

lemma hourOf12_lt (hour : Nat) : hourOf12 hour < 100 := by
  rw [hourOf12]
  split <;> omega

/-- The calendar keeps the parts of a date, and of a time down to the second, in their width. -/
lemma isDigits_render_of_not_isFraction (hwidth : token.width? = some width)
    (hwhole : ¬ token.IsFraction) : IsDigits width (token.render r) := by
  cases token <;> cases hwidth
  case paddedDayOfYear => exact isDigits_padded (by decide) (ordinalOf_lt r.days)
  case shortYear => exact isDigits_padded (by decide) (by omega)
  case paddedMonth => exact isDigits_padded (by decide) r.month_lt
  case paddedDay => exact isDigits_padded (by decide) r.day_lt
  case paddedHour => exact isDigits_padded (by decide) r.time_lt.1
  case paddedHour12 => exact isDigits_padded (by decide) (hourOf12_lt r.hour)
  case paddedMinute => exact isDigits_padded (by decide) r.time_lt.2.1
  case paddedSecond => exact isDigits_padded (by decide) r.time_lt.2.2
  all_goals exact absurd (by decide) hwhole

/-! ## Parts of a second -/

/-- A part of a second is the number of thousandths, cut to the width. -/
lemma render_of_isFraction (hwidth : token.width? = some width) (hfraction : token.IsFraction) :
    token.render r = padded width (Numeral.ofNat (r.instant.millis / 10 ^ (3 - width))) := by
  rcases hfraction with rfl | rfl | rfl
  · cases hwidth
    rw [render, Nat.sub_self, pow_zero, Nat.div_one]
  · cases hwidth
    rfl
  · cases hwidth
    exact (padded_one _).symm

lemma width_of_isFraction (hwidth : token.width? = some width) (hfraction : token.IsFraction) :
    0 < width ∧ 10 ^ width * 10 ^ (3 - width) = 1000 := by
  rcases hfraction with rfl | rfl | rfl <;> cases hwidth <;> decide

/-- Outside of leap seconds a part of a second keeps its width. -/
lemma isDigits_render_of_not_leap (hwidth : token.width? = some width)
    (hfraction : token.IsFraction) (hleap : r.instant.isLeap = false) :
    IsDigits width (token.render r) := by
  obtain ⟨hpos, hpow⟩ := width_of_isFraction hwidth hfraction
  have hmillis : r.instant.millis < 1000 := by
    rw [Instant.isLeap, decide_eq_false_iff_not] at hleap
    rw [Instant.millis]
    omega
  rw [render_of_isFraction hwidth hfraction]
  refine isDigits_padded hpos (Nat.div_lt_of_lt_mul ?_)
  rwa [Nat.mul_comm, hpow]

/-- Inside a leap second there is a digit more. -/
lemma isDigits_render_of_leap (hwidth : token.width? = some width)
    (hfraction : token.IsFraction) (hleap : r.instant.isLeap = true)
    (hvalid : r.instant.nanoseconds < 2000000000) : IsDigits (width + 1) (token.render r) := by
  obtain ⟨hpos, hpow⟩ := width_of_isFraction hwidth hfraction
  have hmillis : 1000 ≤ r.instant.millis ∧ r.instant.millis < 2000 := by
    rw [Instant.isLeap, decide_eq_true_iff] at hleap
    rw [Instant.millis]
    omega
  rw [render_of_isFraction hwidth hfraction]
  refine isDigits_padded_of_le hpos ?_ (Nat.div_lt_of_lt_mul ?_)
  · rw [Nat.le_div_iff_mul_le (by positivity), hpow]
    exact hmillis.1
  · have hten : 10 ^ (3 - width) * 10 ^ (width + 1) = 10 * 1000 := by
      rw [← hpow]
      ring
    omega

end DateToken

/-! ## Formats -/

/-- **The digits of a token wherever it stands in a format.**  A token with a width has that many
digits, with one exception: inside a leap second the tokens for parts of a second have one digit
more. -/
theorem formatDate_of_width {r : ClockReading} (hvalid : r.instant.nanoseconds < 2000000000)
    {format : List Char} {before after : List DateSegment} {token : DateToken} {width : Nat}
    (hcut : FormatCut format (before ++ .token token :: after))
    (hwidth : token.width? = some width) : ∃ digits : List Char,
      formatDate r format =
        before.flatMap (·.render r) ++ digits ++ after.flatMap (·.render r) ∧
      IsDigits (if r.instant.isLeap ∧ token.IsFraction then width + 1 else width) digits := by
  refine ⟨token.render r, ?_, ?_⟩
  · rw [formatDate, ← formatCut_iff.1 hcut, List.flatMap_append, List.flatMap_cons,
      List.append_assoc]
    rfl
  · by_cases hfraction : token.IsFraction
    · cases hleap : r.instant.isLeap with
      | true =>
        rw [if_pos ⟨rfl, hfraction⟩]
        exact DateToken.isDigits_render_of_leap hwidth hfraction hleap hvalid
      | false =>
        rw [if_neg (by simp)]
        exact DateToken.isDigits_render_of_not_leap hwidth hfraction hleap
    · rw [if_neg (fun h => hfraction h.2)]
      exact DateToken.isDigits_render_of_not_isFraction hwidth hfraction

/-- The middle of the leap second at the end of the year 2016. -/
theorem formatDate_of_width_of_leap_second :
    (1500000000 < 2000000000) ∧
    FormatCut "ss.SSS".toList ([.token .paddedSecond, .literal ['.']] ++ .token .millis :: []) ∧
    DateToken.millis.width? = some 3 ∧
    ∃ digits : List Char,
      formatDate ⟨⟨1483228799, 1500000000⟩, 0⟩ "ss.SSS".toList = "59.".toList ++ digits ∧
        IsDigits 4 digits := by
  have hcut : FormatCut "ss.SSS".toList
      ([.token .paddedSecond, .literal ['.']] ++ .token .millis :: []) :=
    formatCut_iff.2 (by cbv)
  obtain ⟨digits, hdigits, hcount⟩ :=
    formatDate_of_width (r := ⟨⟨1483228799, 1500000000⟩, 0⟩) (by decide) hcut rfl
  refine ⟨by decide, hcut, rfl, digits, ?_, hcount⟩
  rw [hdigits, List.flatMap_nil, List.append_nil]
  rfl

/-- A commit in a leap second: its thousandths are not written in three digits. -/
theorem not_isDigits_of_leap_second :
    Instant.ofTimestamp? "2016-12-31T23:59:60.5Z".toList = some ⟨1483228799, 1500000000⟩ ∧
      DateToken.millis.width? = some 3 ∧
      formatDate ⟨⟨1483228799, 1500000000⟩, 0⟩ "SSS".toList = "1500".toList ∧
      ¬ IsDigits 3 (formatDate ⟨⟨1483228799, 1500000000⟩, 0⟩ "SSS".toList) := by
  have htext : formatDate ⟨⟨1483228799, 1500000000⟩, 0⟩ "SSS".toList = "1500".toList := by cbv
  refine ⟨by cbv, rfl, htext, fun h => ?_⟩
  rw [htext] at h
  exact absurd h.1 (by decide)

end ImageTags.Calendar
