import Mathlib
import ImageTags.Calendar.Instant

/-!
# The dates of days

A year has as many days as its months together, so the place of a day in its year falls into one of
them.  The date of a day is therefore one that exists, and its number is the number of the day.  A
later day has a later date: dates are compared by year, then by month, then by day.

* `FallsOn` — the month that a day falls into, and the day of that month.
* `Date.isValid_ofDays`, `Date.toDays_ofDays` — the date of a day exists, and its number is the
  number of the day.
* `Date.before_ofDays` — later days have later dates.
* `ClockReading.HasPlainYear` — the years that can be written in four digits.
* `ClockReading.localSeconds_eq` — what a clock shows, put together again.
-/

namespace ImageTags.Calendar

/-! ## Years -/

lemma isLeapYear_iff (year : Int) :
    isLeapYear year = true ↔ year % 4 = 0 ∧ (year % 100 ≠ 0 ∨ year % 400 = 0) := by
  simp [isLeapYear]

lemma sum_monthLengths (leap : Bool) : (monthLengths leap).sum = if leap then 366 else 365 := by
  cases leap <;> rfl

/-- A year is as long as its months together. -/
lemma daysBefore_succ (year : Int) :
    daysBefore (year + 1) = daysBefore year + ((monthLengths (isLeapYear year)).sum : Nat) := by
  have hfour : (year + 1 + 3) / 4 = (year + 3) / 4 + if year % 4 = 0 then 1 else 0 := by
    split <;> omega
  have hcentury :
      (year + 1 + 99) / 100 = (year + 99) / 100 + if year % 100 = 0 then 1 else 0 := by
    split <;> omega
  have hcycle :
      (year + 1 + 399) / 400 = (year + 399) / 400 + if year % 400 = 0 then 1 else 0 := by
    split <;> omega
  have hlength : ((monthLengths (isLeapYear year)).sum : Int) = 365 +
      (if year % 4 = 0 then 1 else 0) - (if year % 100 = 0 then 1 else 0) +
        if year % 400 = 0 then 1 else 0 := by
    have hleap := isLeapYear_iff year
    rw [sum_monthLengths]
    grind
  rw [daysBefore, daysBefore, hfour, hcentury, hcycle, hlength]
  ring

lemma daysBefore_mono {year year' : Int} (h : year ≤ year') :
    daysBefore year ≤ daysBefore year' := by
  simp only [daysBefore]
  omega

lemma yearOf_mono {day day' : Int} (h : day ≤ day') : yearOf day ≤ yearOf day' := by
  by_contra hlt
  have hyears := daysBefore_mono (show yearOf day' + 1 ≤ yearOf day by omega)
  have hlate := lt_daysBefore_yearOf day'
  have hearly := daysBefore_yearOf_le day
  omega

/-! ## Months -/

/-- Whether, in months of some lengths of which the first is number `first`, the day that `n` days
precede is day `day` of the month number `month`. -/
def FallsOn (first : Nat) (lengths : List Nat) (n month day : Nat) : Prop :=
  ∃ before length after, lengths = before ++ length :: after ∧
    month = first + before.length ∧ 1 ≤ day ∧ day ≤ length ∧ n + 1 = before.sum + day

/-- The months are long enough for a day to fall into one of them. -/
lemma fallsOn_splitMonths {first n : Nat} {lengths : List Nat} (h : n < lengths.sum) :
    FallsOn first lengths n (splitMonths first lengths n).1 (splitMonths first lengths n).2 := by
  fun_induction splitMonths first lengths n with
  | case1 => simp at h
  | case2 first length lengths n hn =>
    exact ⟨[], length, lengths, rfl, rfl, Nat.le_add_left 1 n, hn, by simp⟩
  | case3 first length lengths n hn ih =>
    rw [List.sum_cons] at h
    obtain ⟨before, length', after, rfl, hmonth, hpos, hle, hsum⟩ := ih (by omega)
    refine ⟨length :: before, length', after, rfl, ?_, hpos, hle, ?_⟩
    · rw [List.length_cons]
      omega
    · rw [List.sum_cons]
      omega

lemma le_splitMonths (first : Nat) (lengths : List Nat) (n : Nat) :
    first ≤ (splitMonths first lengths n).1 := by
  fun_induction splitMonths first lengths n with
  | case1 => exact le_rfl
  | case2 => exact le_rfl
  | case3 first length lengths n hn ih => omega

/-- A later day falls into a later month, or on a later day of the same month. -/
lemma splitMonths_lt (first : Nat) (lengths : List Nat) {n n' : Nat} (h : n < n') :
    (splitMonths first lengths n).1 < (splitMonths first lengths n').1 ∨
      (splitMonths first lengths n).1 = (splitMonths first lengths n').1 ∧
        (splitMonths first lengths n).2 < (splitMonths first lengths n').2 := by
  induction lengths generalizing first n n' with
  | nil => exact Or.inr ⟨rfl, Nat.succ_lt_succ h⟩
  | cons length lengths ih =>
    rw [splitMonths, splitMonths]
    by_cases hn' : n' < length
    · rw [if_pos (by omega), if_pos hn']
      exact Or.inr ⟨rfl, Nat.succ_lt_succ h⟩
    · rw [if_neg hn']
      by_cases hn : n < length
      · rw [if_pos hn]
        exact Or.inl (le_splitMonths (first + 1) lengths (n' - length))
      · rw [if_neg hn]
        exact ih (first + 1) (by omega)

/-! ## Dates -/

namespace Date

lemma ordinalOf_eq (day : Int) : (ordinalOf day : Int) = day - daysBefore (yearOf day) + 1 := by
  have hle := daysBefore_yearOf_le day
  rw [ordinalOf]
  omega

lemma ordinalOf_le (day : Int) :
    ordinalOf day ≤ (monthLengths (isLeapYear (yearOf day))).sum := by
  have hlt := lt_daysBefore_yearOf day
  have heq := ordinalOf_eq day
  rw [daysBefore_succ] at hlt
  omega

lemma ofDays_eq (day : Int) : ofDays day =
    ⟨yearOf day,
      (splitMonths 1 (monthLengths (isLeapYear (yearOf day))) (ordinalOf day - 1)).1,
      (splitMonths 1 (monthLengths (isLeapYear (yearOf day))) (ordinalOf day - 1)).2⟩ := rfl

/-- The date of a day is in the year of the day, in the month that it falls into. -/
lemma fallsOn_ofDays (day : Int) :
    FallsOn 1 (monthLengths (isLeapYear (yearOf day))) (ordinalOf day - 1) (ofDays day).month
      (ofDays day).day := by
  have hle := ordinalOf_le day
  have hpos : 1 ≤ ordinalOf day := Nat.le_add_left 1 _
  exact fallsOn_splitMonths (by omega)

lemma year_ofDays (day : Int) : (ofDays day).year = yearOf day := rfl

/-- **The date of a day exists.** -/
theorem isValid_ofDays (day : Int) : (ofDays day).isValid = true := by
  obtain ⟨before, length, after, hlengths, hmonth, hpos, hle, -⟩ := fallsOn_ofDays day
  have hindex : (ofDays day).month - 1 = before.length := by omega
  have hlength : (monthLengths (isLeapYear (ofDays day).year))[(ofDays day).month - 1]? =
      some length := by
    rw [year_ofDays, hlengths, hindex]
    simp
  rw [isValid, hlength]
  simp only [Bool.and_eq_true, decide_eq_true_eq]
  omega

/-- **The number of the date of a day is that of the day.** -/
theorem toDays_ofDays (day : Int) : (ofDays day).toDays = day := by
  obtain ⟨before, length, after, hlengths, hmonth, -, -, hsum⟩ := fallsOn_ofDays day
  have hindex : (ofDays day).month - 1 = before.length := by omega
  have hbefore : daysBeforeMonth (isLeapYear (ofDays day).year) (ofDays day).month =
      before.sum := by
    rw [daysBeforeMonth, year_ofDays, hlengths, hindex, List.take_left, ← List.sum_eq_foldl]
  have heq := ordinalOf_eq day
  have hpos : 1 ≤ ordinalOf day := Nat.le_add_left 1 _
  rw [toDays, hbefore, year_ofDays]
  omega

lemma month_ofDays_mem (day : Int) : 1 ≤ (ofDays day).month ∧ (ofDays day).month ≤ 12 := by
  obtain ⟨before, length, after, hlengths, hmonth, -⟩ := fallsOn_ofDays day
  have hcount := congrArg List.length hlengths
  rw [List.length_append, List.length_cons, monthLengths] at hcount
  simp only [List.length_cons, List.length_nil] at hcount
  omega

lemma le_of_mem_monthLengths {leap : Bool} {length : Nat} (h : length ∈ monthLengths leap) :
    length ≤ 31 := by
  revert h
  cases leap <;> revert length <;> decide

lemma day_ofDays_mem (day : Int) : 1 ≤ (ofDays day).day ∧ (ofDays day).day ≤ 31 := by
  obtain ⟨before, length, after, hlengths, -, hpos, hle, -⟩ := fallsOn_ofDays day
  have hlength := le_of_mem_monthLengths (hlengths ▸ List.mem_append_cons_self)
  omega

/-- Whether a date comes before another. -/
def Before (d d' : Date) : Prop :=
  d.year < d'.year ∨
    d.year = d'.year ∧ (d.month < d'.month ∨ d.month = d'.month ∧ d.day < d'.day)

/-- **A later day has a later date.** -/
theorem before_ofDays {day day' : Int} (h : day < day') : (ofDays day).Before (ofDays day') := by
  rcases (yearOf_mono h.le).lt_or_eq with hyear | hyear
  · exact Or.inl hyear
  · refine Or.inr ⟨hyear, ?_⟩
    have heq := ordinalOf_eq day
    have heq' := ordinalOf_eq day'
    have hpos : 1 ≤ ordinalOf day := Nat.le_add_left 1 _
    have hordinal : ordinalOf day - 1 < ordinalOf day' - 1 := by
      rw [← hyear] at heq'
      omega
    have hmonths := splitMonths_lt 1 (monthLengths (isLeapYear (yearOf day))) hordinal
    rw [ofDays_eq, ofDays_eq, ← hyear]
    exact hmonths

end Date

/-! ## Clock readings -/

namespace ClockReading

/-- Whether a clock shows one of the years from 0 to 9999, for which four digits are enough. -/
def HasPlainYear (r : ClockReading) : Prop := 0 ≤ r.date.year ∧ r.date.year ≤ 9999

instance (r : ClockReading) : Decidable r.HasPlainYear :=
  inferInstanceAs (Decidable (_ ∧ _))

variable (r : ClockReading)

lemma year_lt (h : r.HasPlainYear) : r.date.year.natAbs < 10 ^ 4 := by
  obtain ⟨hzero, hmax⟩ := h
  omega

lemma month_lt : r.date.month < 10 ^ 2 :=
  (Date.month_ofDays_mem r.days).2.trans_lt (by decide)

lemma day_lt : r.date.day < 10 ^ 2 :=
  (Date.day_ofDays_mem r.days).2.trans_lt (by decide)

lemma secondOfDay_lt : r.secondOfDay < 86400 := by
  rw [secondOfDay]
  omega

lemma hour_lt : r.hour < 24 := by
  have h := r.secondOfDay_lt
  rw [hour]
  omega

lemma minute_lt : r.minute < 60 := Nat.mod_lt _ (by decide)

lemma second_lt : r.second < 60 := Nat.mod_lt _ (by decide)

/-- Two digits are enough for each part of a time of day. -/
lemma time_lt : r.hour < 10 ^ 2 ∧ r.minute < 10 ^ 2 ∧ r.second < 10 ^ 2 :=
  ⟨r.hour_lt.trans (by decide), r.minute_lt.trans (by decide), r.second_lt.trans (by decide)⟩

/-- **What a clock shows is the time that it counts**: the days, hours, minutes and seconds put
together are the seconds since 1970. -/
theorem localSeconds_eq :
    r.localSeconds = (r.date.toDays - epochDay) * 86400 +
      (r.hour * 3600 + r.minute * 60 + r.second : Nat) := by
  have hseconds : r.hour * 3600 + r.minute * 60 + r.second = r.secondOfDay := by
    rw [hour, minute, second]
    omega
  have hday : (r.secondOfDay : Int) = r.localSeconds % 86400 := by
    rw [secondOfDay]
    omega
  rw [hseconds, date, Date.toDays_ofDays, days, hday]
  omega

end ClockReading

end ImageTags.Calendar
