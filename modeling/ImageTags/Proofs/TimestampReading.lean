import Mathlib
import ImageTags.Event.Payload
import ImageTags.Proofs.CalendarDates
import ImageTags.Proofs.PaddedNumerals

/-!
# Dates that are read back

The format of a date for which none is given writes timestamps.  A clock reading that is written in
it is read back as the instant of the reading, without its part of a second: each number is found
again in its width, the date is one that exists, and the offset is taken off again.  In a leap
second the clock shows the second before, and that is what is read.

* `readDate?_text`, `readTime?_text`, `readOffset?_offsetText` — the parts of a timestamp.
* `ofTimestamp?_formatDate` — the timestamp of a clock reading.
* **`commitDate_of_formatDate`** — a commit with such a date.
-/

namespace ImageTags

namespace Calendar

open Numeral

/-! ## The parts of a timestamp -/

/-- A number is found again in its width, whatever follows. -/
lemma readDigits?_padded {width n : Nat} (hwidth : 0 < width) (h : n < 10 ^ width)
    (rest : List Char) : readDigits? width (padded width (ofNat n) ++ rest) = some (n, rest) := by
  obtain ⟨hlength, hdigits⟩ := isDigits_padded hwidth h
  have htake : (padded width (ofNat n) ++ rest).take width = padded width (ofNat n) :=
    List.take_left' hlength
  have hdrop : (padded width (ofNat n) ++ rest).drop width = rest := List.drop_left' hlength
  rw [readDigits?, htake, hdrop, if_pos ⟨hlength, List.all_eq_true.2 hdigits⟩, value_padded,
    value_ofNat]

lemma skip?_cons (c : Char) (cs : List Char) : skip? c (c :: cs) = some cs :=
  Text.stripStart?_eq_some_iff.2 rfl

/-- A date with a year of four digits is read back. -/
lemma readDate?_text {r : ClockReading} (h : r.HasPlainYear) (rest : List Char) :
    readDate? (paddedInt 4 r.date.year ++ '-' :: (padded 2 (ofNat r.date.month) ++
      '-' :: (padded 2 (ofNat r.date.day) ++ rest))) = some (r.date, rest) := by
  have hnat : (r.date.year.natAbs : Int) = r.date.year := Int.natAbs_of_nonneg h.1
  have hvalid : r.date.isValid = true := Date.isValid_ofDays r.days
  rw [readDate?, paddedInt_of_nonneg h.1, readDigits?_padded (by decide) (r.year_lt h)]
  simp only [Option.bind_eq_bind, Option.bind_some, skip?_cons,
    readDigits?_padded (by decide) r.month_lt, readDigits?_padded (by decide) r.day_lt, hnat]
  exact if_pos hvalid

/-- A time of day without decimals is read back. -/
lemma readTime?_text (r : ClockReading) {rest : List Char} (h : skip? '.' rest = none) :
    readTime? (padded 2 (ofNat r.hour) ++ ':' :: (padded 2 (ofNat r.minute) ++
      ':' :: (padded 2 (ofNat r.second) ++ rest))) =
      some (r.hour * 3600 + r.minute * 60 + r.second, 0, rest) := by
  obtain ⟨hhour, hminute, hsecond⟩ := r.time_lt
  have hlast := r.second_lt
  rw [readTime?, readDigits?_padded (by decide) hhour]
  simp only [Option.bind_eq_bind, Option.bind_some, skip?_cons,
    readDigits?_padded (by decide) hminute, readDigits?_padded (by decide) hsecond,
    readDecimals?, h]
  rw [if_pos ⟨Nat.le_of_lt_succ r.hour_lt, Nat.le_of_lt_succ r.minute_lt, hlast.le⟩,
    if_neg hlast.ne]

/-- An offset of whole minutes that is less than a day is read back. -/
lemma readOffset?_offsetText {minutes : Int} (h : -1440 < minutes ∧ minutes < 1440) :
    readOffset? (offsetText [':'] (60 * minutes)) = some (60 * minutes) := by
  obtain ⟨hmin, hmax⟩ := h
  have hcount : (60 * minutes).natAbs / 60 = minutes.natAbs := by omega
  have hhours : minutes.natAbs / 60 < 10 ^ 2 := by omega
  have hminutes : minutes.natAbs % 60 < 10 ^ 2 := by omega
  have hread := readDigits?_padded (by decide) hminutes []
  rw [List.append_nil] at hread
  have hsplit : (minutes.natAbs / 60 : Nat) * 3600 + (minutes.natAbs % 60 : Nat) * 60 =
      60 * (minutes.natAbs : Int) := by omega
  rw [offsetText, hcount]
  simp only [List.cons_append, List.append_assoc, List.nil_append]
  rw [readOffset?, if_neg (by split <;> decide), if_pos (by split <;> decide)]
  rw [readDigits?_padded (by decide) hhours]
  simp only [Option.bind_eq_bind, Option.bind_some, skip?_cons, hread]
  rw [if_pos ⟨by omega, by omega, trivial⟩, hsplit]
  by_cases hneg : 60 * minutes < 0
  · rw [if_pos hneg, if_neg (by decide)]
    exact congrArg some (by omega)
  · rw [if_neg hneg, if_pos rfl]
    exact congrArg some (by omega)

/-- The sign of an offset is no point. -/
lemma skip?_point_offsetText (separator : List Char) (offset : Int) :
    skip? '.' (offsetText separator offset) = none := by
  rw [offsetText]
  simp only [List.cons_append, skip?, Text.stripStart?]
  exact if_neg (by split <;> decide)

/-! ## Clock readings -/

lemma segments_defaultFormat : segments defaultFormat.toList =
    [.token .fullYear, .literal ['-'], .token .paddedMonth, .literal ['-'], .token .paddedDay,
      .literal ['T'], .token .paddedHour, .literal [':'], .token .paddedMinute, .literal [':'],
      .token .paddedSecond, .token .offset] := by cbv

/-- A date without a format of its own is a timestamp. -/
lemma formatDate_defaultFormat (r : ClockReading) :
    formatDate r defaultFormat.toList =
      paddedInt 4 r.date.year ++ '-' :: (padded 2 (ofNat r.date.month) ++
        '-' :: (padded 2 (ofNat r.date.day) ++ 'T' :: (padded 2 (ofNat r.hour) ++
          ':' :: (padded 2 (ofNat r.minute) ++ ':' :: (padded 2 (ofNat r.second) ++
            offsetText [':'] r.offset))))) := by
  rw [formatDate, segments_defaultFormat]
  simp only [List.flatMap_cons, List.flatMap_nil, DateSegment.render, DateToken.render,
    List.cons_append, List.nil_append, List.append_nil]

/-- **The timestamp of a clock reading is read as its instant**, without the part of a second. -/
theorem ofTimestamp?_formatDate {t : Instant} {minutes : Int}
    (hminutes : -1440 < minutes ∧ minutes < 1440)
    (hyear : ClockReading.HasPlainYear ⟨t, 60 * minutes⟩) :
    Instant.ofTimestamp? (formatDate ⟨t, 60 * minutes⟩ defaultFormat.toList) =
      some ⟨t.seconds, 0⟩ := by
  have hseconds := ClockReading.localSeconds_eq ⟨t, 60 * minutes⟩
  have hlocal : ClockReading.localSeconds ⟨t, 60 * minutes⟩ = t.seconds + 60 * minutes := rfl
  rw [formatDate_defaultFormat, Instant.ofTimestamp?, readDate?_text hyear]
  simp only [Option.bind_eq_bind, Option.bind_some]
  rw [if_pos (Or.inl trivial), readTime?_text _ (skip?_point_offsetText _ _)]
  simp only [Option.bind_some, readOffset?_offsetText hminutes]
  rw [← hseconds, hlocal, Int.add_sub_cancel]

end Calendar

/-! ## Commits -/

open Calendar

/-- **A commit with a date that was written without a format.**  For a clock whose distance from UTC
is a whole number of minutes below a day, and which shows a year from 0 to 9999, the text that is
written for an instant stands for that instant without its part of a second when it comes as the
date of a commit. -/
theorem commitDate_of_formatDate {t : Instant} {minutes : Int}
    (hminutes : -1440 < minutes ∧ minutes < 1440)
    (hyear : ClockReading.HasPlainYear ⟨t, 60 * minutes⟩) {payload : Payload}
    (hpayload : payload.timestamp =
      some (String.ofList (formatDate ⟨t, 60 * minutes⟩ defaultFormat.toList)))
    (trigger : Trigger) (repository : Repository) (now : Instant) :
    (Context.ofTrigger trigger payload repository now).commitDate = ⟨t.seconds, 0⟩ := by
  rw [Context.ofTrigger, hpayload]
  simp only [Option.bind_some, String.toList_ofList, ofTimestamp?_formatDate hminutes hyear,
    Option.getD_some]

/-- The leap second at the end of the year 2016, on a clock that shows the next year already. -/
theorem commitDate_of_leap_second : (-1440 < (30 : Int) ∧ (30 : Int) < 1440) ∧
    ClockReading.HasPlainYear ⟨⟨1483228799, 1500000000⟩, 60 * 30⟩ ∧
    ∃ payload : Payload,
      Payload.parse
        "\x7b\"head_commit\": \x7b\"timestamp\": \"2017-01-01T00:29:59+00:30\"\x7d\x7d" =
        .ok payload ∧
      payload.timestamp = some (String.ofList
        (formatDate ⟨⟨1483228799, 1500000000⟩, 60 * 30⟩ defaultFormat.toList)) ∧
      ∀ trigger repository now,
        (Context.ofTrigger trigger payload repository now).commitDate = ⟨1483228799, 0⟩ := by
  have hminutes : -1440 < (30 : Int) ∧ (30 : Int) < 1440 := by decide
  have hyear : ClockReading.HasPlainYear ⟨⟨1483228799, 1500000000⟩, 60 * 30⟩ := by decide
  have hpayload : (some "2017-01-01T00:29:59+00:30" : Option String) = some (String.ofList
      (formatDate ⟨⟨1483228799, 1500000000⟩, 60 * 30⟩ defaultFormat.toList)) := by cbv
  exact ⟨hminutes, hyear, ⟨none, some "2017-01-01T00:29:59+00:30", none, none, none⟩, by cbv,
    hpayload, commitDate_of_formatDate hminutes hyear hpayload⟩

end ImageTags
