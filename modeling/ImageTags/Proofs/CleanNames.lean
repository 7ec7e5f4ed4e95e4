import Mathlib
import ImageTags.Proofs.Ascii
import ImageTags.TagName

/-!
# Texts made into names of tags

Each longest run of characters that cannot stand in the name of a tag gives one hyphen, and the
other characters stay as they are.  `Cleaned` says so run by run, with the characters given by their
ranges and without the flag that the program carries along.

* `isAllowed_iff` — the program asks for the characters that are meant.
* `cleaned_iff` — a text is made into one name.
* **`clean_by_runs`** — what becomes of a text.
-/

namespace ImageTags.TagName

open Text

/-! ## Characters -/

/-- The characters of names of tags: letters and digits of ASCII, points, underscores, hyphens. -/
def IsNameCharacter (c : Char) : Prop :=
  ('A' ≤ c ∧ c ≤ 'Z') ∨ ('a' ≤ c ∧ c ≤ 'z') ∨ ('0' ≤ c ∧ c ≤ '9') ∨ c = '.' ∨ c = '_' ∨ c = '-'

/-- **A character is allowed if it stands in one of the ranges.**  No letter or digit outside of
ASCII does. -/
theorem isAllowed_iff {c : Char} : isAllowed c = true ↔ IsNameCharacter c := by
  have hupper : c.isUpper = true ↔ 'A' ≤ c ∧ c ≤ 'Z' := isUpper_iff_val
  have hlower : c.isLower = true ↔ 'a' ≤ c ∧ c ≤ 'z' :=
    isLower_iff.trans (val_mem_range_iff 'a' 'z').symm
  have hdigit : c.isDigit = true ↔ '0' ≤ c ∧ c ≤ '9' :=
    isDigit_iff.trans (val_mem_range_iff '0' '9').symm
  simp only [isAllowed, IsNameCharacter, Bool.or_eq_true, decide_eq_true_eq, isAlphanum_iff,
    hupper, hlower, hdigit, or_assoc]

/-- The hyphen in the place of a run is allowed itself. -/
lemma isNameCharacter_hyphen : IsNameCharacter '-' :=
  isAllowed_iff.1 (by decide)

/-! ## Runs -/

/-- What a text becomes from left to right.  A run goes on up to a character of names or to the end,
so it cannot be made longer; nor can it start earlier, since what comes before it was a character
of names or the start of the text. -/
inductive Cleaned : List Char → List Char → Prop
  | done : Cleaned [] []
  | kept {c : Char} {cs name : List Char} (hc : IsNameCharacter c) (hrest : Cleaned cs name) :
      Cleaned (c :: cs) (c :: name)
  | run {run rest name : List Char} (hne : run ≠ []) (hrun : ∀ c ∈ run, ¬ IsNameCharacter c)
      (hend : ∀ c ∈ rest.head?, IsNameCharacter c) (hrest : Cleaned rest name) :
      Cleaned (run ++ rest) ('-' :: name)

variable {c : Char} {cs run rest name : List Char}

lemma cleanFrom_of_isNameCharacter (hc : IsNameCharacter c) (inRun : Bool) :
    cleanFrom inRun (c :: cs) = c :: cleanFrom false cs := by
  rw [cleanFrom, if_pos (isAllowed_iff.2 hc)]

lemma cleanFrom_of_not_isNameCharacter (hc : ¬ IsNameCharacter c) (inRun : Bool) :
    cleanFrom inRun (c :: cs) =
      if inRun then cleanFrom true cs else '-' :: cleanFrom true cs := by
  rw [cleanFrom, if_neg (mt isAllowed_iff.1 hc)]

/-- The rest of a run leaves nothing behind. -/
lemma cleanFrom_append_of_run (hrun : ∀ c ∈ run, ¬ IsNameCharacter c) :
    cleanFrom true (run ++ rest) = cleanFrom true rest := by
  induction run with
  | nil => rfl
  | cons c run ih =>
    obtain ⟨hc, hrun⟩ := List.forall_mem_cons.1 hrun
    rw [List.cons_append, cleanFrom_of_not_isNameCharacter hc, if_pos rfl, ih hrun]

/-- Where a run has ended it makes no difference that there was one. -/
lemma cleanFrom_of_run_ended (hend : ∀ c ∈ rest.head?, IsNameCharacter c) :
    cleanFrom true rest = cleanFrom false rest := by
  cases rest with
  | nil => rfl
  | cons c rest =>
    have hc : IsNameCharacter c := hend c rfl
    rw [cleanFrom_of_isNameCharacter hc, cleanFrom_of_isNameCharacter hc]

/-- The program makes what the text becomes run by run; inside of a run it makes what the text
becomes after the end of the run. -/
lemma cleaned_cleanFrom (cs : List Char) : Cleaned cs (cleanFrom false cs) ∧
    ∃ run rest, cs = run ++ rest ∧ (∀ c ∈ run, ¬ IsNameCharacter c) ∧
      (∀ c ∈ rest.head?, IsNameCharacter c) ∧ Cleaned rest (cleanFrom true cs) := by
  induction cs with
  | nil => exact ⟨.done, [], [], rfl, by simp, by simp, .done⟩
  | cons c cs ih =>
    obtain ⟨hbetween, run, rest, hcs, hrun, hend, hrest⟩ := ih
    by_cases hc : IsNameCharacter c
    · have hkept : Cleaned (c :: cs) (c :: cleanFrom false cs) := .kept hc hbetween
      rw [cleanFrom_of_isNameCharacter hc, cleanFrom_of_isNameCharacter hc]
      exact ⟨hkept, [], c :: cs, rfl, by simp, by simpa using hc, hkept⟩
    · have hlonger : ∀ d ∈ c :: run, ¬ IsNameCharacter d := List.forall_mem_cons.2 ⟨hc, hrun⟩
      have hcons : c :: cs = (c :: run) ++ rest := by rw [hcs, List.cons_append]
      rw [cleanFrom_of_not_isNameCharacter hc, cleanFrom_of_not_isNameCharacter hc, hcons]
      exact ⟨.run (List.cons_ne_nil c run) hlonger hend hrest, c :: run, rest, rfl, hlonger, hend,
        hrest⟩

lemma Cleaned.eq_cleanFrom (h : Cleaned cs name) : name = cleanFrom false cs := by
  induction h with
  | done => rfl
  | kept hc _ ih => rw [cleanFrom_of_isNameCharacter hc, ih]
  | @run run rest name hne hrun hend _ ih =>
    obtain ⟨c, run, rfl⟩ := List.exists_cons_of_ne_nil hne
    obtain ⟨hc, hrun⟩ := List.forall_mem_cons.1 hrun
    rw [List.cons_append, cleanFrom_of_not_isNameCharacter hc, if_neg Bool.false_ne_true,
      cleanFrom_append_of_run hrun, cleanFrom_of_run_ended hend, ih]

/-- **A text is made into one name only**, that which the program makes. -/
theorem cleaned_iff : Cleaned cs name ↔ name = cleanFrom false cs := by
  refine ⟨Cleaned.eq_cleanFrom, ?_⟩
  rintro rfl
  exact (cleaned_cleanFrom cs).1

/-! ## Names -/

/-- What comes out are characters of names. -/
lemma Cleaned.isNameCharacter_of_mem (h : Cleaned cs name) : ∀ c ∈ name, IsNameCharacter c := by
  induction h with
  | done => simp
  | kept hc _ ih => exact List.forall_mem_cons.2 ⟨hc, ih⟩
  | run _ _ _ _ ih => exact List.forall_mem_cons.2 ⟨isNameCharacter_hyphen, ih⟩

/-- Nothing comes out of nothing only. -/
lemma Cleaned.eq_nil_iff (h : Cleaned cs name) : name = [] ↔ cs = [] := by
  cases h with
  | done => simp
  | kept hc _ => simp
  | run hne _ _ _ => simp [hne]

/-- A text that consists of characters of names becomes itself. -/
lemma cleaned_self (h : ∀ c ∈ cs, IsNameCharacter c) : Cleaned cs cs := by
  induction cs with
  | nil => exact .done
  | cons c cs ih =>
    obtain ⟨hc, hcs⟩ := List.forall_mem_cons.1 h
    exact .kept hc (ih hcs)

lemma cleaned_clean (text : String) : Cleaned text.toList (clean text).toList := by
  rw [clean, String.toList_ofList]
  exact cleaned_iff.2 rfl

lemma eq_clean_of_cleaned {text made : String} (h : Cleaned text.toList made.toList) :
    made = clean text := by
  rw [clean, ← cleaned_iff.1 h, String.ofList_toList]

/-- **What becomes of a text**: each longest run of characters that cannot stand in a name gives one
hyphen, and the others are kept.  So the name has no other characters, it is empty for the empty
text alone, and a text that is a name already stays as it is. -/
theorem clean_by_runs (text : String) :
    (∀ made : String, Cleaned text.toList made.toList ↔ made = clean text) ∧
    (∀ c ∈ (clean text).toList, IsNameCharacter c) ∧
    (clean text = "" ↔ text = "") ∧
    clean (clean text) = clean text ∧
    ((∀ c ∈ text.toList, IsNameCharacter c) → clean text = text) := by
  have hclean : Cleaned text.toList (clean text).toList := cleaned_clean text
  have hname := hclean.isNameCharacter_of_mem
  have hself {s : String} (h : ∀ c ∈ s.toList, IsNameCharacter c) : clean s = s :=
    (eq_clean_of_cleaned (cleaned_self h)).symm
  refine ⟨fun made => ⟨eq_clean_of_cleaned, ?_⟩, hname, ?_, hself hname, hself⟩
  · rintro rfl
    exact hclean
  · rw [← String.toList_eq_nil_iff, hclean.eq_nil_iff, String.toList_eq_nil_iff]

/-- A hyphen of the text is kept beside those that stand for runs. -/
example : clean "feat/ü-ß #12/" = "feat---12-" := by decide

end ImageTags.TagName
