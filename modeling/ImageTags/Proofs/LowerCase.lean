import Mathlib.Tactic.Lemma
import ImageTags.Text.Blank
import ImageTags.Proofs.Ascii
import ImageTags.Text.LowerCase

/-!
# Lower case is settled

A text in lower case stays as it is when it is put into lower case again.  For one character this
is a fact about the table: no run of `lowerCaseRuns` moves a code point to where a run starts from.
The runs are compared pairwise as progressions (`apart`), so nothing has to be checked character by
character.  In the same way no run moves a character to a blank or to an equals sign.

* `lowerCaseOf_cases` — a character either stays as it is or goes to characters that do.
* **`lowerCase_lowerCase`** — for texts, whatever became of their capital sigmas.
-/

namespace ImageTags

namespace Unicode

/-! ## Progressions that do not meet -/

namespace CaseRun

/-- Where a run moves its code points. -/
def image (r : CaseRun) : CaseRun := ⟨r.target r.first, r.target r.last, r.step, 0⟩

/-- Two progressions that have no code point in common: one ends before the other starts, or the
first has one code point only, or both take every second one and start at different parities. -/
def apart (r s : CaseRun) : Bool :=
  r.last < s.first || s.last < r.first || (r.first == r.last && !s.covers r.first) ||
    (r.step == 2 && s.step == 2 && (r.first - s.first) % 2 == 1)

lemma covers_iff {r : CaseRun} {n : Nat} :
    r.covers n = true ↔ r.first ≤ n ∧ n ≤ r.last ∧ (n - r.first) % r.step = 0 := by
  simp [covers, and_assoc]

lemma not_covers_of_apart {r s : CaseRun} {n : Nat} (h : r.apart s = true)
    (hr : r.covers n = true) : s.covers n = false := by
  rw [← Bool.not_eq_true]
  intro hs
  obtain ⟨hr₁, hr₂, hr₃⟩ := covers_iff.1 hr
  obtain ⟨hs₁, hs₂, hs₃⟩ := covers_iff.1 hs
  simp only [apart, Bool.or_eq_true, Bool.and_eq_true, decide_eq_true_eq, beq_iff_eq,
    Bool.not_eq_true'] at h
  rcases h with ((h | h) | ⟨hone, hfirst⟩) | ⟨⟨hr, hs⟩, hodd⟩
  · omega
  · omega
  · obtain rfl : n = r.first := by omega
    simp [hfirst] at hs
  · rw [hr] at hr₃
    rw [hs] at hs₃
    omega

/-- The code points of a run are moved into its image. -/
lemma covers_image {r : CaseRun} {n : Nat} (hshift : 0 ≤ r.first + r.shift)
    (h : r.covers n = true) : r.image.covers (r.target n) = true := by
  obtain ⟨h₁, h₂, h₃⟩ := covers_iff.1 h
  refine covers_iff.2 ⟨?_, ?_, ?_⟩ <;> simp only [image, target]
  · omega
  · omega
  · rwa [show (n + r.shift).toNat - (r.first + r.shift).toNat = n - r.first by omega]

end CaseRun

/-! ## Where the table leads -/

/-- The code points of blanks, of the equals sign, of the character with two characters in lower
case, and those that are no characters. -/
def keptClear : List CaseRun :=
  [⟨9, 13, 1, 0⟩, ⟨0x20, 0x20, 1, 0⟩, ⟨0x85, 0x85, 1, 0⟩, ⟨0xA0, 0xA0, 1, 0⟩,
   ⟨0x1680, 0x1680, 1, 0⟩, ⟨0x2000, 0x200A, 1, 0⟩, ⟨0x2028, 0x2029, 1, 0⟩, ⟨0x202F, 0x202F, 1, 0⟩,
   ⟨0x205F, 0x205F, 1, 0⟩, ⟨0x3000, 0x3000, 1, 0⟩, ⟨0x3D, 0x3D, 1, 0⟩, ⟨0x130, 0x130, 1, 0⟩,
   ⟨0xD800, 0xDFFF, 1, 0⟩]

/-- The images of the table stay clear of the table itself and of `keptClear`, and inside the range
of characters. -/
lemma lowerCaseRuns_clear :
    (lowerCaseRuns.all fun r => decide (0 ≤ r.first + r.shift ∧ r.image.last < 0x110000) &&
      (lowerCaseRuns ++ keptClear).all r.image.apart) = true := by
  decide +kernel

/-- What a run moves a code point to, no run and nothing in `keptClear` covers. -/
lemma not_covers_target {r s : CaseRun} {n : Nat} (hr : r ∈ lowerCaseRuns)
    (hs : s ∈ lowerCaseRuns ++ keptClear) (h : r.covers n = true) :
    s.covers (r.target n) = false := by
  have hclear := List.all_eq_true.1 lowerCaseRuns_clear r hr
  simp only [Bool.and_eq_true, decide_eq_true_eq] at hclear
  obtain ⟨⟨hshift, -⟩, hapart⟩ := hclear
  exact CaseRun.not_covers_of_apart (List.all_eq_true.1 hapart s hs)
    (CaseRun.covers_image hshift h)

/-- A run moves characters to characters. -/
lemma toNat_ofNat_target {r : CaseRun} {n : Nat} (hr : r ∈ lowerCaseRuns)
    (h : r.covers n = true) : (Char.ofNat (r.target n)).toNat = r.target n := by
  have hclear := List.all_eq_true.1 lowerCaseRuns_clear r hr
  simp only [Bool.and_eq_true, decide_eq_true_eq] at hclear
  obtain ⟨⟨hshift, hlast⟩, -⟩ := hclear
  have hsurrogate := not_covers_target (s := ⟨0xD800, 0xDFFF, 1, 0⟩) hr (by decide) h
  have himage := (CaseRun.covers_iff.1 (CaseRun.covers_image hshift h)).2.1
  rw [← Bool.not_eq_true, CaseRun.covers_iff] at hsurrogate
  have hvalid : (r.target n).isValidChar := by
    simp only [Nat.mod_one, and_true, not_and, Nat.not_le] at hsurrogate
    rw [Nat.isValidChar]
    omega
  rw [Char.ofNat, dif_pos hvalid]
  rfl

/-- A character that no run covers stays as it is. -/
lemma lowerCaseOf_of_not_covers {c : Char} (hc : c ≠ '\u0130')
    (h : ∀ r ∈ lowerCaseRuns, r.covers c.toNat = false) : lowerCaseOf c = [c] := by
  have hnone : lowerCaseRuns.find? (·.covers c.toNat) = none :=
    List.find?_eq_none.2 fun r hr => by simp [h r hr]
  rw [lowerCaseOf, if_neg hc, CaseRun.apply, hnone]

/-- Characters stay as they are if they are in a progression that no run meets. -/
lemma lowerCaseOf_of_apart {c : Char} {s : CaseRun} (h : lowerCaseRuns.all s.apart = true)
    (hs : s.covers c.toNat = true) (hc : c ≠ '\u0130') : lowerCaseOf c = [c] :=
  lowerCaseOf_of_not_covers hc fun r hr =>
    CaseRun.not_covers_of_apart (List.all_eq_true.1 h r hr) hs

/-- The letters from `a` to `z` are in lower case. -/
lemma lowerCaseOf_of_isLower {c : Char} (h : c.isLower = true) : lowerCaseOf c = [c] := by
  have hletter : CaseRun.covers ⟨0x61, 0x7A, 1, 0⟩ c.toNat = true := by
    have hrange := Text.isLower_iff.1 h
    exact CaseRun.covers_iff.2 ⟨hrange.1, hrange.2, Nat.mod_one _⟩
  exact lowerCaseOf_of_apart (by decide +kernel) hletter (by rintro rfl; simp at h)

/-- The code points of blanks are in `keptClear`. -/
lemma covers_keptClear_of_isBlank {c : Char} (h : Text.isBlank c = true) :
    ∃ s ∈ keptClear, s.covers c.toNat = true := by
  have hrange := Text.isBlank_iff.1 h
  simp only [keptClear, List.mem_cons, List.not_mem_nil, or_false, exists_eq_or_imp,
    exists_eq_left, CaseRun.covers_iff, Nat.mod_one, and_true]
  omega

/-- **What becomes of one character.**  It stays as it is, or it goes to characters that stay as
they are and that are neither blanks nor equals signs. -/
theorem lowerCaseOf_cases (c : Char) :
    lowerCaseOf c = [c] ∨
      ∀ d ∈ lowerCaseOf c, lowerCaseOf d = [d] ∧ Text.isBlank d = false ∧ d ≠ '=' := by
  by_cases hc : c = '\u0130'
  · right
    subst hc
    have hi : lowerCaseOf 'i' = ['i'] :=
      lowerCaseOf_of_apart (s := ⟨0x69, 0x69, 1, 0⟩) (by decide +kernel) (by decide) (by decide)
    have hdot : lowerCaseOf '\u0307' = ['\u0307'] :=
      lowerCaseOf_of_apart (s := ⟨0x307, 0x307, 1, 0⟩) (by decide +kernel) (by decide) (by decide)
    rw [lowerCaseOf, if_pos rfl, List.forall_mem_cons, List.forall_mem_singleton]
    exact ⟨⟨hi, by decide, by decide⟩, hdot, by decide, by decide⟩
  · rw [lowerCaseOf, if_neg hc, CaseRun.apply]
    cases hfind : lowerCaseRuns.find? (·.covers c.toNat) with
    | none => exact Or.inl rfl
    | some r =>
      right
      have hr := List.mem_of_find?_eq_some hfind
      have hcovers : r.covers c.toNat = true :=
        List.find?_some (p := fun s : CaseRun => s.covers c.toNat) hfind
      have htarget := toNat_ofNat_target hr hcovers
      have hclear : ∀ s ∈ lowerCaseRuns ++ keptClear,
          s.covers (Char.ofNat (r.target c.toNat)).toNat = false := fun s hs => by
        rw [htarget]
        exact not_covers_target hr hs hcovers
      intro d hd
      obtain rfl := List.mem_singleton.1 hd
      have hcode : ∀ e : Char, (∃ s ∈ keptClear, s.covers e.toNat = true) →
          Char.ofNat (r.target c.toNat) ≠ e := by
        rintro _ ⟨s, hs, hse⟩ rfl
        simp [hclear s (List.mem_append_right _ hs)] at hse
      refine ⟨?_, ?_, hcode '=' (by decide)⟩
      · exact lowerCaseOf_of_not_covers (hcode '\u0130' (by decide))
          fun s hs => hclear s (List.mem_append_left _ hs)
      · rw [← Bool.not_eq_true]
        exact fun hblank => hcode _ (covers_keptClear_of_isBlank hblank) rfl

/-- Characters in lower case stay as they are. -/
lemma lowerCaseOf_of_mem {c d : Char} (h : d ∈ lowerCaseOf c) : lowerCaseOf d = [d] := by
  rcases lowerCaseOf_cases c with hc | hc
  · rw [hc, List.mem_singleton] at h
    rw [h, hc]
  · exact (hc d h).1

/-- No character but a blank goes to a blank. -/
lemma isBlank_of_mem_lowerCaseOf {c d : Char} (hc : Text.isBlank c = false)
    (h : d ∈ lowerCaseOf c) : Text.isBlank d = false := by
  rcases lowerCaseOf_cases c with hself | hclear
  · rw [hself, List.mem_singleton] at h
    rwa [h]
  · exact (hclear d h).2.1

/-- No character but the equals sign goes to the equals sign. -/
lemma ne_equals_of_mem_lowerCaseOf {c d : Char} (hc : c ≠ '=') (h : d ∈ lowerCaseOf c) :
    d ≠ '=' := by
  rcases lowerCaseOf_cases c with hself | hclear
  · rw [hself, List.mem_singleton] at h
    rwa [h]
  · exact (hclear d h).2.2

lemma lowerCaseOf_ne_nil (c : Char) : lowerCaseOf c ≠ [] := by
  rw [lowerCaseOf]
  split <;> simp

end Unicode

/-! ## Texts -/

namespace Text

open Unicode

/-- The lower-case form of a character in its place in a text. -/
def lowerCaseAt (before : List Char) (c : Char) (after : List Char) : List Char :=
  if c = 'Σ' then [if endsWord before after then 'ς' else 'σ'] else lowerCaseOf c

lemma lowerCaseAfter_cons (before : List Char) (c : Char) (cs : List Char) :
    lowerCaseAfter before (c :: cs) =
      lowerCaseAt before c cs ++ lowerCaseAfter (c :: before) cs := rfl

lemma lowerCaseAt_ne_nil (before : List Char) (c : Char) (after : List Char) :
    lowerCaseAt before c after ≠ [] := by
  rw [lowerCaseAt]
  split
  · simp
  · exact lowerCaseOf_ne_nil c

/-- A property that the lower-case form of a character has, and both small sigmas, holds of the
character in its place. -/
lemma of_mem_lowerCaseAt {p : Char → Prop} {before : List Char} {c d : Char} {after : List Char}
    (hfinal : p 'ς') (hsigma : p 'σ') (hof : d ∈ lowerCaseOf c → p d)
    (h : d ∈ lowerCaseAt before c after) : p d := by
  rw [lowerCaseAt] at h
  split at h
  · split at h
    · rwa [List.mem_singleton.1 h]
    · rwa [List.mem_singleton.1 h]
  · exact hof h

/-- What is found in a text in lower case comes from one of the characters. -/
lemma exists_of_mem_lowerCaseAfter {before cs : List Char} {d : Char}
    (h : d ∈ lowerCaseAfter before cs) :
    ∃ c ∈ cs, ∃ before after, d ∈ lowerCaseAt before c after := by
  induction cs generalizing before with
  | nil => simp [lowerCaseAfter] at h
  | cons c cs ih =>
    rw [lowerCaseAfter_cons, List.mem_append] at h
    rcases h with h | h
    · exact ⟨c, List.mem_cons_self, before, cs, h⟩
    · obtain ⟨c', hc', hd⟩ := ih h
      exact ⟨c', List.mem_cons_of_mem _ hc', hd⟩

/-- A text whose characters stay as they are stays as it is; it has no capital sigma. -/
lemma lowerCaseAfter_eq_self {before cs : List Char} (h : ∀ c ∈ cs, lowerCaseOf c = [c]) :
    lowerCaseAfter before cs = cs := by
  induction cs generalizing before with
  | nil => rfl
  | cons c cs ih =>
    have hc := h c List.mem_cons_self
    have hsigma : c ≠ 'Σ' := by
      rintro rfl
      exact absurd hc (by decide +kernel)
    rw [lowerCaseAfter_cons, lowerCaseAt, if_neg hsigma, hc,
      ih fun c' hc' => h c' (List.mem_cons_of_mem _ hc')]
    rfl

/-- **A text in lower case stays as it is.** -/
theorem lowerCase_lowerCase (cs : List Char) : lowerCase (lowerCase cs) = lowerCase cs := by
  refine lowerCaseAfter_eq_self fun d hd => ?_
  obtain ⟨c, -, before, after, h⟩ := exists_of_mem_lowerCaseAfter hd
  exact of_mem_lowerCaseAt (p := fun d => lowerCaseOf d = [d]) (by decide +kernel)
    (by decide +kernel) lowerCaseOf_of_mem h

/-- A word of letters from `a` to `z` is in lower case. -/
lemma lowerCase_of_isLower {cs : List Char} (h : cs.all Char.isLower = true) :
    lowerCase cs = cs :=
  lowerCaseAfter_eq_self fun c hc => lowerCaseOf_of_isLower (List.all_eq_true.1 h c hc)

/-- Lower case brings no equals sign into a text. -/
lemma equals_not_mem_lowerCase {cs : List Char} (h : '=' ∉ cs) : '=' ∉ lowerCase cs := by
  intro hmem
  obtain ⟨c, hc, before, after, hd⟩ := exists_of_mem_lowerCaseAfter hmem
  refine of_mem_lowerCaseAt (p := (· ≠ '=')) (by decide) (by decide)
    (ne_equals_of_mem_lowerCaseOf ?_) hd rfl
  rintro rfl
  exact h hc

/-- Lower case brings no blank into a text. -/
lemma mem_of_mem_lowerCase {cs : List Char} {d : Char} (hd : isBlank d = true)
    (h : d ∈ lowerCase cs) : d ∈ cs := by
  obtain ⟨c, hc, before, after, hat⟩ := exists_of_mem_lowerCaseAfter h
  have hof : d ∈ lowerCaseOf c → isBlank d = true → d ∈ cs := by
    intro hmem _
    rcases lowerCaseOf_cases c with hself | hclear
    · rw [hself, List.mem_singleton] at hmem
      rwa [hmem]
    · simp [(hclear d hmem).2.1] at hd
  exact of_mem_lowerCaseAt (p := fun d => isBlank d = true → d ∈ cs)
    (fun hfinal => absurd hfinal (by decide)) (fun hsigma => absurd hsigma (by decide)) hof hat hd

end Text

end ImageTags
