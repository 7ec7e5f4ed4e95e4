import Mathlib
import ImageTags.Calendar.Format
import ImageTags.Proofs.CalendarDates
import ImageTags.Proofs.PaddedNumerals

/-!
# Compact dates

In the format `YYYYMMDDHHmmss` a date is a row of numbers, from the year down to the second, each in
a width of its own.  A later second shows a greater row of numbers on every clock, so its text is
greater as well, as long as the years have four digits.

* `ClockReading.numbers_lt` — a later second shows later numbers.
* **`compact_lt_compact`** — the texts of later seconds are greater.
-/

namespace ImageTags.Calendar

open Numeral

/-- The format with all parts of a date and nothing between them. -/
def compactFormat : String := "YYYYMMDDHHmmss"

namespace ClockReading

/-- The numbers that a clock shows, from the year down to the second. -/
def numbers (r : ClockReading) : List Nat :=
  [r.date.year.natAbs, r.date.month, r.date.day, r.hour, r.minute, r.second]

variable {r r' : ClockReading}

lemma fits_numbers (h : r.HasPlainYear) : Fits [4, 2, 2, 2, 2, 2] r.numbers := by
  obtain ⟨hhour, hminute, hsecond⟩ := r.time_lt
  exact .cons ⟨by decide, r.year_lt h⟩ (.cons ⟨by decide, r.month_lt⟩ (.cons ⟨by decide, r.day_lt⟩
    (.cons ⟨by decide, hhour⟩ (.cons ⟨by decide, hminute⟩ (.cons ⟨by decide, hsecond⟩ .nil)))))

/-- In the course of a day the hour, the minute and the second grow, in this order. -/
lemma time_before (h : r.secondOfDay < r'.secondOfDay) : r.hour < r'.hour ∨
    r.hour = r'.hour ∧ (r.minute < r'.minute ∨ r.minute = r'.minute ∧ r.second < r'.second) := by
  simp only [hour, minute, second]
  omega

/-- **A later second shows greater numbers**, where the first number that differs decides. -/
theorem numbers_lt (h : r.localSeconds < r'.localSeconds) (hr : r.HasPlainYear)
    (hr' : r'.HasPlainYear) : r.numbers < r'.numbers := by
  simp only [numbers, List.cons_lt_cons_iff]
  by_cases hdays : r.days < r'.days
  · have hbefore : r.date.Before r'.date := Date.before_ofDays hdays
    obtain ⟨hzero, -⟩ := hr
    obtain ⟨hzero', -⟩ := hr'
    rcases hbefore with hyear | ⟨hyear, hmonth | ⟨hmonth, hday⟩⟩
    · exact Or.inl (by omega)
    · exact Or.inr ⟨congrArg _ hyear, Or.inl hmonth⟩
    · exact Or.inr ⟨congrArg _ hyear, Or.inr ⟨hmonth, Or.inl hday⟩⟩
  · have hsame : r.days = r'.days ∧ r.secondOfDay < r'.secondOfDay := by
      simp only [days, secondOfDay] at hdays ⊢
      omega
    have hdate : r.date = r'.date := congrArg Date.ofDays hsame.1
    rw [hdate]
    refine Or.inr ⟨rfl, Or.inr ⟨rfl, Or.inr ⟨rfl, ?_⟩⟩⟩
    rcases time_before hsame.2 with hhour | ⟨hhour, hminute | ⟨hminute, hsecond⟩⟩
    · exact Or.inl hhour
    · exact Or.inr ⟨hhour, Or.inl hminute⟩
    · exact Or.inr ⟨hhour, Or.inr ⟨hminute, Or.inl hsecond⟩⟩

end ClockReading

/-! ## Texts -/

lemma segments_compactFormat : segments compactFormat.toList =
    [.token .fullYear, .token .paddedMonth, .token .paddedDay, .token .paddedHour,
      .token .paddedMinute, .token .paddedSecond] := by cbv

/-- A compact date is a row of numbers. -/
lemma formatDate_compactFormat {r : ClockReading} (h : r.HasPlainYear) :
    formatDate r compactFormat.toList = row [4, 2, 2, 2, 2, 2] r.numbers := by
  rw [formatDate, segments_compactFormat]
  simp only [List.flatMap_cons, List.flatMap_nil, DateSegment.render, DateToken.render,
    paddedInt_of_nonneg h.1, ClockReading.numbers, row, List.zipWith, List.flatten_cons,
    List.flatten_nil]

lemma isDigits_formatDate {r : ClockReading} (h : r.HasPlainYear) :
    IsDigits 14 (formatDate r compactFormat.toList) := by
  rw [formatDate_compactFormat h]
  exact isDigits_row (r.fits_numbers h)

/-- **The compact date of a later second is the greater text.**  On a clock that is some seconds
ahead of UTC, as long as it shows years from 0 to 9999, the compact dates of two seconds are texts
of fourteen digits, and the text of the later one comes later in the order of letters. -/
theorem compact_lt_compact {t t' : Instant} {offset : Int} (h : t.seconds < t'.seconds)
    (hyear : ClockReading.HasPlainYear ⟨t, offset⟩)
    (hyear' : ClockReading.HasPlainYear ⟨t', offset⟩) :
    IsDigits 14 (formatDate ⟨t, offset⟩ compactFormat.toList) ∧
      IsDigits 14 (formatDate ⟨t', offset⟩ compactFormat.toList) ∧
      formatDate ⟨t, offset⟩ compactFormat.toList <
        formatDate ⟨t', offset⟩ compactFormat.toList := by
  have hlocal : ClockReading.localSeconds ⟨t, offset⟩ < ClockReading.localSeconds ⟨t', offset⟩ :=
    Int.add_lt_add_right h offset
  refine ⟨isDigits_formatDate hyear, isDigits_formatDate hyear', ?_⟩
  rw [formatDate_compactFormat hyear, formatDate_compactFormat hyear']
  exact row_lt_row (ClockReading.fits_numbers hyear) (ClockReading.fits_numbers hyear')
    (ClockReading.numbers_lt hlocal hyear hyear')

/-- The last second of the year 1999 and the first of the year 2000 in a zone behind UTC. -/
theorem compact_lt_compact_of_century :
    let r : ClockReading := ⟨⟨946702799, 0⟩, -18000⟩
    let r' : ClockReading := ⟨⟨946702800, 0⟩, -18000⟩
    r.instant.seconds < r'.instant.seconds ∧ r.HasPlainYear ∧ r'.HasPlainYear ∧
      formatDate r compactFormat.toList = "19991231235959".toList ∧
      formatDate r' compactFormat.toList = "20000101000000".toList ∧
      formatDate r compactFormat.toList < formatDate r' compactFormat.toList := by
  have hyear : ClockReading.HasPlainYear ⟨⟨946702799, 0⟩, -18000⟩ := by decide
  have hyear' : ClockReading.HasPlainYear ⟨⟨946702800, 0⟩, -18000⟩ := by decide
  exact ⟨by decide, hyear, hyear', by cbv, by cbv,
    (compact_lt_compact (by decide) hyear hyear').2.2⟩

end ImageTags.Calendar
