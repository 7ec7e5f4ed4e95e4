import Mathlib
import ImageTags.Numeral
import ImageTags.Proofs.Ascii

/-!
# Numerals of a fixed width

A number that has no more digits than a width is written in just that many characters.  Texts of
digits of the same width are ordered as letters like their values as numbers: the first place where
they differ decides.  So rows of numbers, each in a width of its own, are ordered like the numbers,
the first ones first.

* `Numeral.IsDigits` — texts of so many digits.
* `Numeral.isDigits_padded`, `Numeral.value_padded` — the width and the value of a padded numeral.
* `Numeral.append_lt_append` — the order of digits is the order of values.
* **`Numeral.row_lt_row`** — the order of rows.
-/

namespace ImageTags.Numeral

open Text

/-- Whether a text consists of so many digits. -/
def IsDigits (count : Nat) (cs : List Char) : Prop :=
  cs.length = count ∧ ∀ c ∈ cs, c.isDigit = true

variable {digits digits' : List Char}

/-! ## Values -/

lemma value_cons (c : Char) (digits : List Char) :
    value (c :: digits) = 10 ^ digits.length * (c.toNat - 48) + value digits := by
  have hcode : '0'.toNat = 48 := rfl
  rw [value, Nat.ofDigitChars_cons, hcode, Nat.mul_zero, Nat.zero_add,
    Nat.ofDigitChars_eq_ofDigitChars_zero, value]

lemma value_lt (h : ∀ c ∈ digits, c.isDigit = true) : value digits < 10 ^ digits.length := by
  induction digits with
  | nil => simp [value]
  | cons c digits ih =>
    obtain ⟨hc, hdigits⟩ := List.forall_mem_cons.1 h
    have hrange := isDigit_iff.1 hc
    have hrest := ih hdigits
    have hfirst : 10 ^ digits.length * (c.toNat - 48) ≤ 10 ^ digits.length * 9 :=
      Nat.mul_le_mul_left _ (by omega)
    rw [value_cons, List.length_cons, pow_succ]
    omega

/-- **The order of digits is the order of values**, whatever comes behind them: the first digits
decide, and the others where the first are the same. -/
theorem append_lt_append (h : ∀ c ∈ digits, c.isDigit = true)
    (h' : ∀ c ∈ digits', c.isDigit = true) (hlength : digits.length = digits'.length)
    (hvalue : value digits < value digits') (cs cs' : List Char) :
    digits ++ cs < digits' ++ cs' := by
  induction digits generalizing digits' with
  | nil =>
    obtain rfl := List.length_eq_zero_iff.1 hlength.symm
    exact absurd hvalue (lt_irrefl _)
  | cons c digits ih =>
    obtain ⟨c', digits', rfl⟩ := List.exists_cons_of_length_eq_add_one hlength.symm
    obtain ⟨hc, hdigits⟩ := List.forall_mem_cons.1 h
    obtain ⟨hc', hdigits'⟩ := List.forall_mem_cons.1 h'
    have hrest : digits.length = digits'.length := Nat.succ.inj hlength
    have hrange := isDigit_iff.1 hc
    have hrange' := isDigit_iff.1 hc'
    rw [List.cons_append, List.cons_append, List.cons_lt_cons_iff]
    rcases lt_trichotomy c c' with hlt | rfl | hgt
    · exact Or.inl hlt
    · rw [value_cons, value_cons, hrest] at hvalue
      exact Or.inr ⟨rfl, ih hdigits hdigits' hrest (by omega)⟩
    · -- a greater first digit makes up for all the others
      have hcode : c'.toNat < c.toNat := hgt
      have hothers := value_lt hdigits'
      have hfirst : 10 ^ digits.length * (c'.toNat - 48) + 10 ^ digits.length ≤
          10 ^ digits.length * (c.toNat - 48) := by
        rw [← Nat.mul_succ]
        exact Nat.mul_le_mul_left _ (by omega)
      rw [value_cons, value_cons, ← hrest] at hvalue
      rw [← hrest] at hothers
      omega

/-! ## Padded numerals -/

variable {width n : Nat}

lemma value_padded (width : Nat) (digits : List Char) :
    value (padded width digits) = value digits := by
  rw [padded, value, Nat.ofDigitChars_append, Nat.ofDigitChars_replicate_zero, Nat.mul_zero, value]

lemma isDigit_of_mem_padded {c : Char} (h : c ∈ padded width (ofNat n)) : c.isDigit = true := by
  rw [padded, List.mem_append] at h
  rcases h with h | h
  · rw [List.eq_of_mem_replicate h]
    rfl
  · exact isDigit_of_mem_ofNat h

lemma length_padded (width : Nat) (digits : List Char) :
    (padded width digits).length = max width digits.length := by
  rw [padded, List.length_append, List.length_replicate]
  omega

/-- **A number is written in the width that it fits in.** -/
theorem isDigits_padded (hwidth : 0 < width) (h : n < 10 ^ width) :
    IsDigits width (padded width (ofNat n)) := by
  have hle : (ofNat n).length ≤ width := (Nat.length_toDigits_le_iff (by decide) hwidth).2 h
  exact ⟨(length_padded width _).trans (max_eq_left hle), fun _ => isDigit_of_mem_padded⟩

/-- A number with one digit more than the width is written in full. -/
lemma isDigits_padded_of_le (hwidth : 0 < width) (h : 10 ^ width ≤ n) (h' : n < 10 ^ (width + 1)) :
    IsDigits (width + 1) (padded width (ofNat n)) := by
  have hle : (ofNat n).length ≤ width + 1 :=
    (Nat.length_toDigits_le_iff (by decide) (Nat.succ_pos width)).2 h'
  have hlt : ¬ (ofNat n).length ≤ width := by
    intro hshort
    exact absurd ((Nat.length_toDigits_le_iff (by decide) hwidth).1 hshort) (not_lt.2 h)
  refine ⟨(length_padded width _).trans ?_, fun _ => isDigit_of_mem_padded⟩
  omega

lemma paddedInt_of_nonneg {n : Int} (h : 0 ≤ n) (width : Nat) :
    paddedInt width n = padded width (ofNat n.natAbs) :=
  if_neg (not_lt.2 h)

/-- A numeral has a digit anyway. -/
lemma padded_one (n : Nat) : padded 1 (ofNat n) = ofNat n := by
  have hpos : 0 < (ofNat n).length := Nat.length_toDigits_pos
  have hzero : 1 - (ofNat n).length = 0 := by omega
  rw [padded, hzero, List.replicate_zero, List.nil_append]

/-! ## Rows -/

/-- Whether there is a width for each of some numbers, and each number fits in its own. -/
def Fits (widths numbers : List Nat) : Prop :=
  List.Forall₂ (fun width n => 0 < width ∧ n < 10 ^ width) widths numbers

/-- Numbers one behind the other, each written in a width of its own. -/
def row (widths numbers : List Nat) : List Char :=
  (List.zipWith (fun width n => padded width (ofNat n)) widths numbers).flatten

variable {widths numbers numbers' : List Nat}

lemma row_cons (width n : Nat) (widths numbers : List Nat) :
    row (width :: widths) (n :: numbers) = padded width (ofNat n) ++ row widths numbers := rfl

/-- The digits of a row are those of its numbers. -/
lemma isDigits_row (h : Fits widths numbers) : IsDigits widths.sum (row widths numbers) := by
  induction h with
  | nil => exact ⟨rfl, by simp [row]⟩
  | cons hn _ ih =>
    obtain ⟨hlength, hdigits⟩ := isDigits_padded hn.1 hn.2
    rw [row_cons]
    refine ⟨?_, fun c hc => (List.mem_append.1 hc).elim (hdigits c) (ih.2 c)⟩
    rw [List.length_append, hlength, ih.1, List.sum_cons]

/-- **Rows are ordered like the numbers in them.** -/
theorem row_lt_row (h : Fits widths numbers) (h' : Fits widths numbers')
    (hlt : numbers < numbers') : row widths numbers < row widths numbers' := by
  induction h generalizing numbers' with
  | nil =>
    cases h'
    exact absurd hlt (lt_irrefl _)
  | @cons width n widths numbers hn _ ih =>
    cases h' with
    | @cons _ n' _ numbers' hn' hnumbers' =>
      rw [row_cons, row_cons]
      rcases List.cons_lt_cons_iff.1 hlt with hfirst | ⟨rfl, hrest⟩
      · obtain ⟨hlength, hdigits⟩ := isDigits_padded hn.1 hn.2
        obtain ⟨hlength', hdigits'⟩ := isDigits_padded hn'.1 hn'.2
        refine append_lt_append hdigits hdigits' (hlength.trans hlength'.symm) ?_ _ _
        rwa [value_padded, value_padded, value_ofNat, value_ofNat]
      · exact List.append_left_lt (ih hnumbers' hrest)

end ImageTags.Numeral
