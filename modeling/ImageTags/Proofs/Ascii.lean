import Mathlib.Tactic.Lemma
import ImageTags.Text.Blank

/-!
# Classes of ASCII characters

Upper case, lower case and digits as ranges of code points, and what lower case does to a code
point.  Questions about the classes of a character are then questions of arithmetic.
-/

namespace ImageTags.Text

/-- A range of characters is a range of code points. -/
lemma val_mem_range_iff {c : Char} (first last : Char) :
    c.val ≥ first.val ∧ c.val ≤ last.val ↔ first.toNat ≤ c.toNat ∧ c.toNat ≤ last.toNat :=
  and_congr UInt32.le_iff_toNat_le UInt32.le_iff_toNat_le

lemma isUpper_iff_val {c : Char} : c.isUpper = true ↔ c.val ≥ 'A'.val ∧ c.val ≤ 'Z'.val :=
  decide_eq_true_iff

lemma isUpper_iff {c : Char} : c.isUpper = true ↔ 65 ≤ c.toNat ∧ c.toNat ≤ 90 :=
  isUpper_iff_val.trans (val_mem_range_iff 'A' 'Z')

lemma isLower_iff {c : Char} : c.isLower = true ↔ 97 ≤ c.toNat ∧ c.toNat ≤ 122 := by
  show (decide (c.val ≥ 'a'.val) && decide (c.val ≤ 'z'.val)) = true ↔ _
  rw [Bool.and_eq_true, decide_eq_true_iff, decide_eq_true_iff]
  exact val_mem_range_iff 'a' 'z'

lemma isDigit_iff {c : Char} : c.isDigit = true ↔ 48 ≤ c.toNat ∧ c.toNat ≤ 57 := by
  show (decide (c.val ≥ '0'.val) && decide (c.val ≤ '9'.val)) = true ↔ _
  rw [Bool.and_eq_true, decide_eq_true_iff, decide_eq_true_iff]
  exact val_mem_range_iff '0' '9'

lemma isAlphanum_iff {c : Char} :
    c.isAlphanum = true ↔ c.isUpper = true ∨ c.isLower = true ∨ c.isDigit = true := by
  show ((c.isUpper || c.isLower) || c.isDigit) = true ↔ _
  rw [Bool.or_eq_true, Bool.or_eq_true, or_assoc]

lemma toLower_of_not_isUpper {c : Char} (h : ¬ c.isUpper = true) : c.toLower = c :=
  dif_neg fun hc => h (isUpper_iff_val.2 hc)

lemma toNat_toLower {c : Char} (h : c.isUpper = true) : c.toLower.toNat = c.toNat + 32 := by
  have hrange := isUpper_iff.1 h
  have hval : c.toLower.val = c.val + ('a'.val - 'A'.val) :=
    congrArg Char.val (dif_pos (isUpper_iff_val.1 h))
  have hsub : ('a'.val - 'A'.val).toNat = 32 := rfl
  rw [Char.toNat, hval, UInt32.toNat_add, hsub]
  simp only [Char.toNat] at hrange ⊢
  omega

/-- The code points of blanks. -/
lemma isBlank_iff {c : Char} : isBlank c = true ↔
    (9 ≤ c.toNat ∧ c.toNat ≤ 13) ∨ c.toNat = 32 ∨ c.toNat = 133 ∨ c.toNat = 160 ∨
      c.toNat = 5760 ∨ (8192 ≤ c.toNat ∧ c.toNat ≤ 8202) ∨ c.toNat = 8232 ∨ c.toNat = 8233 ∨
      c.toNat = 8239 ∨ c.toNat = 8287 ∨ c.toNat = 12288 := by
  simp [isBlank, or_assoc]

end ImageTags.Text
