import Mathlib
import ImageTags.Proofs.CanonicalVersion
import ImageTags.Proofs.Trim
import ImageTags.Proofs.VersionParts
import ImageTags.Version.Reading

/-!
# The texts of semantic versions

A semantic version in the strict form is three numbers with points between them, the identifiers of
a pre-release behind a hyphen and those of a build behind a plus sign.  Around it there can be
marks: blanks, one equals sign and one letter.  A text is read exactly if it is a strict version
with marks around it, and what is kept of it is the version without its build.

* `Semver.Strict`, `Semver.Marks` — the strict form, and what can stand around it.
* `Semver.read?_eq_some_iff` — the texts in the strict form.
* `Semver.dropMarks_around`, `Semver.exists_marks` — the marks are taken off, and nothing else is.
* **`Dialect.read?_semver_by_marks`** — which texts are read, and as what.
-/

namespace ImageTags

open Text

/-! ## Numerals -/

namespace Numeral

/-- A digit is the numeral of its value. -/
lemma ofNat_digit {c : Char} (h : c.isDigit = true) : ofNat (c.toNat - 48) = [c] := by
  have hrange := isDigit_iff.1 h
  rw [ofNat, Nat.toDigits_of_lt_base (by omega), List.singleton_inj, ← Char.toNat_inj,
    Nat.toNat_digitChar_of_lt_ten (by omega)]
  omega

/-- Digits behind a number other than zero are more of its numeral. -/
lemma ofNat_append {digits : List Char} (hdigits : ∀ c ∈ digits, c.isDigit = true) {n : Nat}
    (hn : 0 < n) : ofNat n ++ digits = ofNat (Nat.ofDigitChars 10 digits n) := by
  induction digits generalizing n with
  | nil => simp
  | cons c digits ih =>
    obtain ⟨hc, hdigits⟩ := List.forall_mem_cons.1 hdigits
    have hrange := isDigit_iff.1 hc
    have hcode : '0'.toNat = 48 := rfl
    have hlonger : ofNat n ++ ofNat (c.toNat - 48) = ofNat (10 * n + (c.toNat - 48)) :=
      Nat.toDigits_append_toDigits (by decide) hn (by omega)
    rw [Nat.ofDigitChars_cons, hcode, ← ih hdigits (by omega), ← hlonger, ofNat_digit hc]
    simp

/-- **Digits without zeros in front are the numeral of their value.** -/
theorem ofNat_value {digits : List Char} (h : Pep440.IsNumeral digits) :
    ofNat (value digits) = digits := by
  obtain ⟨⟨hne, hdigits⟩, hzero⟩ := h
  cases digits with
  | nil => exact absurd rfl hne
  | cons c digits =>
    obtain ⟨hc, hdigits⟩ := List.forall_mem_cons.1 hdigits
    by_cases hc0 : c = '0'
    · rw [hzero (by rw [hc0]; rfl)]
      rfl
    · have hrange := isDigit_iff.1 hc
      have hcode : '0'.toNat = 48 := rfl
      have hne : c.toNat ≠ 48 := by
        intro h
        exact hc0 (Char.toNat_inj.1 h)
      rw [value, Nat.ofDigitChars_cons, hcode, Nat.mul_zero, Nat.zero_add,
        ← ofNat_append hdigits (by omega), ofNat_digit hc]
      rfl

/-- The numeral of a number that fits in 64 bits is read. -/
lemma readWord?_ofNat {n : Nat} (h : n ≤ maxWord) : readWord? (ofNat n) = some n := by
  obtain ⟨hne, hdigits⟩ := Pep440.run_ofNat n
  have hvalue := value_ofNat n
  exact readWord?_eq_some_iff.2 ⟨hne, hdigits, by rwa [hvalue], hvalue.symm⟩

end Numeral

namespace Semver

open Ways (Run)

/-! ## The strict form -/

/-- An identifier of a pre-release: if it is a number, it has no zero in front. -/
def IsPreIdentifier (cs : List Char) : Prop :=
  Run isIdentifierChar cs ∧ ((∀ c ∈ cs, c.isDigit = true) → cs.head? = some '0' → cs = ['0'])

/-- A version in the strict form.  One without a pre-release has no identifiers of it, and so for
the build. -/
structure Strict where
  major : Nat
  minor : Nat
  patch : Nat
  pre : List (List Char)
  build : List (List Char)
  major_le : major ≤ Numeral.maxWord
  minor_le : minor ≤ Numeral.maxWord
  patch_le : patch ≤ Numeral.maxWord
  pre_valid : ∀ identifier ∈ pre, IsPreIdentifier identifier
  build_valid : ∀ identifier ∈ build, Run isIdentifierChar identifier

/-- Identifiers with points between them behind a mark, and nothing if there are none. -/
def behind (mark : Char) : List (List Char) → List Char
  | [] => []
  | identifier :: identifiers => mark :: joinWith ['.'] (identifier :: identifiers)

namespace Strict

/-- The numbers of a version with points between them. -/
def core (s : Strict) : List Char :=
  joinWith ['.'] [Numeral.ofNat s.major, Numeral.ofNat s.minor, Numeral.ofNat s.patch]

/-- The text of a version without its build. -/
def plain (s : Strict) : List Char := s.core ++ behind '-' s.pre

/-- The text of a version. -/
def text (s : Strict) : List Char := s.plain ++ behind '+' s.build

/-- What is kept of a version. -/
def version (s : Strict) : Semver := ⟨s.major, s.minor, s.patch, s.pre⟩

end Strict

/-! ## Reading the parts -/

lemma hasLeadingZero_eq_false_iff {cs : List Char} :
    hasLeadingZero cs = false ↔ (cs.head? = some '0' → cs = ['0']) := by
  cases cs with
  | nil => simp [hasLeadingZero]
  | cons c cs =>
    cases cs with
    | nil =>
      by_cases hc : c = '0'
      · simp [hasLeadingZero, hc]
      · simp [hasLeadingZero, hc]
    | cons d cs =>
      by_cases hc : c = '0'
      · simp [hasLeadingZero, hc]
      · simp [hasLeadingZero, hc]

/-- A number of the core is read from its numeral and from nothing else. -/
lemma readNumber?_eq_some_iff {digits : List Char} {n : Nat} :
    readNumber? digits = some n ↔ digits = Numeral.ofNat n ∧ n ≤ Numeral.maxWord := by
  rw [readNumber?]
  constructor
  · intro h
    split at h
    · simp at h
    · next hzero =>
      rw [Bool.not_eq_true, hasLeadingZero_eq_false_iff] at hzero
      obtain ⟨hne, hdigits, hmax, rfl⟩ := Numeral.readWord?_eq_some_iff.1 h
      exact ⟨(Numeral.ofNat_value ⟨⟨hne, hdigits⟩, hzero⟩).symm, hmax⟩
  · rintro ⟨rfl, hmax⟩
    rw [hasLeadingZero_eq_false_iff.2 (Pep440.isNumeral_ofNat n).2]
    exact Numeral.readWord?_ofNat hmax

lemma isIdentifier_iff {cs : List Char} : isIdentifier cs = true ↔ Run isIdentifierChar cs := by
  simp [isIdentifier, Run]

lemma isPreIdentifier_iff {cs : List Char} : isPreIdentifier cs = true ↔ IsPreIdentifier cs := by
  rw [isPreIdentifier, IsPreIdentifier, Bool.and_eq_true, isIdentifier_iff, Bool.not_eq_true',
    Bool.and_eq_false_imp, hasLeadingZero_eq_false_iff, List.all_eq_true]

lemma point_not_mem {identifier : List Char} (h : Run isIdentifierChar identifier) :
    '.' ∉ identifier := by
  intro hpoint
  exact absurd (h.2 '.' hpoint) (by decide)

/-- The part of a version that holds some identifiers. -/
def joined? : List (List Char) → Option (List Char)
  | [] => none
  | identifier :: identifiers => some (joinWith ['.'] (identifier :: identifiers))

lemma behind_eq (mark : Char) (identifiers : List (List Char)) :
    behind mark identifiers = ((joined? identifiers).map (mark :: ·)).getD [] := by
  cases identifiers <;> rfl

/-- Identifiers are read from the part that holds them and from no other. -/
lemma identifiers?_eq_some_iff {valid : List Char → Bool}
    (hvalid : ∀ identifier, valid identifier = true → '.' ∉ identifier)
    {part : Option (List Char)} {identifiers : List (List Char)} :
    identifiers? valid part = some identifiers ↔
      part = joined? identifiers ∧ ∀ identifier ∈ identifiers, valid identifier = true := by
  cases part with
  | none =>
    cases identifiers with
    | nil => simp [identifiers?, joined?]
    | cons identifier identifiers => simp [identifiers?, joined?]
  | some part =>
    have hjoin := joinWith_splitEach '.' part
    rw [identifiers?]
    constructor
    · intro h
      split at h
      · next hall =>
        obtain rfl := Option.some.inj h
        refine ⟨?_, List.all_eq_true.1 hall⟩
        cases hpieces : splitEach '.' part with
        | nil => exact absurd hpieces (splitEach_ne_nil '.' part)
        | cons piece pieces => rw [joined?, ← hpieces, hjoin]
      · simp at h
    · rintro ⟨hpart, hall⟩
      cases identifiers with
      | nil => simp [joined?] at hpart
      | cons identifier identifiers =>
        obtain rfl := Option.some.inj hpart
        have hsplit : splitEach '.' (joinWith ['.'] (identifier :: identifiers)) =
            identifier :: identifiers := by
          refine splitEach_joinWith (by simp) fun piece hpiece => ?_
          exact hvalid piece (hall piece hpiece)
        rw [hsplit, if_pos (List.all_eq_true.2 hall)]

/-- Where a text is cut. -/
lemma cutFirst_eq_iff {sep : Char} {cs before : List Char} {after : Option (List Char)} :
    cutFirst sep cs = (before, after) ↔
      sep ∉ before ∧ cs = before ++ (after.map (sep :: ·)).getD [] := by
  rw [cutFirst]
  cases hsplit : splitFirst? sep cs with
  | none =>
    have hsep := splitFirst?_eq_none_iff.1 hsplit
    constructor
    · rintro h
      obtain ⟨rfl, rfl⟩ := Prod.mk.inj h
      exact ⟨hsep, by simp⟩
    · rintro ⟨-, rfl⟩
      cases after with
      | none => simp
      | some after => simp at hsep
  | some pieces =>
    obtain ⟨first, rest⟩ := pieces
    obtain ⟨rfl, hfirst⟩ := splitFirst?_eq_some_iff.1 hsplit
    constructor
    · rintro h
      obtain ⟨rfl, rfl⟩ := Prod.mk.inj h
      exact ⟨hfirst, rfl⟩
    · rintro ⟨hbefore, h⟩
      cases after with
      | none =>
        simp only [Option.map_none, Option.getD_none, List.append_nil] at h
        simp [← h] at hbefore
      | some after =>
        obtain ⟨rfl, rfl⟩ := append_sep_inj hfirst hbefore h
        rfl

/-! ## Reading the strict form -/

namespace Strict

lemma mem_core {s : Strict} {c : Char} (h : c ∈ s.core) : c.isDigit = true ∨ c = '.' := by
  rcases mem_joinWith h with h | ⟨piece, hpiece, h⟩
  · exact Or.inr (List.mem_singleton.1 h)
  · simp only [List.mem_cons, List.not_mem_nil, or_false] at hpiece
    rcases hpiece with rfl | rfl | rfl <;> exact Or.inl (Numeral.isDigit_of_mem_ofNat h)

lemma mem_behind {mark : Char} {identifiers : List (List Char)}
    (hvalid : ∀ identifier ∈ identifiers, Run isIdentifierChar identifier) {c : Char}
    (h : c ∈ behind mark identifiers) : c = mark ∨ c = '.' ∨ isIdentifierChar c = true := by
  cases identifiers with
  | nil => simp [behind] at h
  | cons identifier identifiers =>
    rcases List.mem_cons.1 h with h | h
    · exact Or.inl h
    · rcases mem_joinWith h with h | ⟨piece, hpiece, h⟩
      · exact Or.inr (Or.inl (List.mem_singleton.1 h))
      · exact Or.inr (Or.inr ((hvalid piece hpiece).2 c h))

/-- The characters of a version without its build. -/
theorem mem_plain {s : Strict} {c : Char} (h : c ∈ s.plain) :
    c.isAlphanum = true ∨ c = '.' ∨ c = '-' := by
  rcases List.mem_append.1 h with h | h
  · rcases mem_core h with h | h
    · exact Or.inl (isAlphanum_iff.2 (Or.inr (Or.inr h)))
    · exact Or.inr (Or.inl h)
  · rcases mem_behind (fun identifier h => (s.pre_valid identifier h).1) h with h | h | h
    · exact Or.inr (Or.inr h)
    · exact Or.inr (Or.inl h)
    · rw [isIdentifierChar, Bool.or_eq_true, decide_eq_true_iff] at h
      exact h.imp_right Or.inr

end Strict

lemma point_not_mem_of_isIdentifier {identifier : List Char} (h : isIdentifier identifier = true) :
    '.' ∉ identifier :=
  point_not_mem (isIdentifier_iff.1 h)

lemma point_not_mem_of_isPreIdentifier {identifier : List Char}
    (h : isPreIdentifier identifier = true) : '.' ∉ identifier :=
  point_not_mem (isPreIdentifier_iff.1 h).1

/-- A text that is read is in the strict form. -/
lemma exists_strict_of_read? {cs : List Char} {v : Semver} (h : read? cs = some v) :
    ∃ s : Strict, s.text = cs ∧ s.version = v := by
  rcases hbuild : cutFirst '+' cs with ⟨rest, build⟩
  rcases hpre : cutFirst '-' rest with ⟨core, pre⟩
  simp only [read?, hbuild, hpre] at h
  split at h
  · next major minor patch hcore =>
    obtain ⟨a, ha, h⟩ := Option.bind_eq_some_iff.1 h
    obtain ⟨b, hb, h⟩ := Option.bind_eq_some_iff.1 h
    obtain ⟨c, hc, h⟩ := Option.bind_eq_some_iff.1 h
    obtain ⟨pres, hpres, h⟩ := Option.bind_eq_some_iff.1 h
    obtain ⟨builds, hbuilds, h⟩ := Option.bind_eq_some_iff.1 h
    obtain rfl := Option.some.inj h
    obtain ⟨rfl, hmajor⟩ := readNumber?_eq_some_iff.1 ha
    obtain ⟨rfl, hminor⟩ := readNumber?_eq_some_iff.1 hb
    obtain ⟨rfl, hpatch⟩ := readNumber?_eq_some_iff.1 hc
    obtain ⟨rfl, hpreValid⟩ :=
      (identifiers?_eq_some_iff fun _ => point_not_mem_of_isPreIdentifier).1 hpres
    obtain ⟨rfl, hbuildValid⟩ :=
      (identifiers?_eq_some_iff fun _ => point_not_mem_of_isIdentifier).1 hbuilds
    have hjoin := joinWith_splitEach '.' core
    rw [hcore] at hjoin
    refine ⟨{
      major := a
      minor := b
      patch := c
      pre := pres
      build := builds
      major_le := hmajor
      minor_le := hminor
      patch_le := hpatch
      pre_valid := fun identifier h => isPreIdentifier_iff.1 (hpreValid identifier h)
      build_valid := fun identifier h => isIdentifier_iff.1 (hbuildValid identifier h) }, ?_, rfl⟩
    rw [Strict.text, Strict.plain, Strict.core, hjoin, behind_eq, behind_eq,
      ← (cutFirst_eq_iff.1 hpre).2, ← (cutFirst_eq_iff.1 hbuild).2]
  · simp at h

/-- A version in the strict form is read. -/
lemma read?_strict (s : Strict) : read? s.text = some s.version := by
  have hplus : '+' ∉ s.plain := by
    intro h
    rcases s.mem_plain h with h | h | h
    · exact absurd h (by decide)
    · simp at h
    · simp at h
  have hhyphen : '-' ∉ s.core := by
    intro h
    rcases s.mem_core h with h | h
    · exact absurd h (by decide)
    · simp at h
  have hbuild : cutFirst '+' s.text = (s.plain, joined? s.build) :=
    cutFirst_eq_iff.2 ⟨hplus, by rw [Strict.text, behind_eq]⟩
  have hpre : cutFirst '-' s.plain = (s.core, joined? s.pre) :=
    cutFirst_eq_iff.2 ⟨hhyphen, by rw [Strict.plain, behind_eq]⟩
  have hpoint (n : Nat) : '.' ∉ Numeral.ofNat n := by
    intro h
    exact absurd (Numeral.isDigit_of_mem_ofNat h) (by decide)
  have hcore : splitEach '.' s.core =
      [Numeral.ofNat s.major, Numeral.ofNat s.minor, Numeral.ofNat s.patch] := by
    refine splitEach_joinWith (by simp) ?_
    simp [hpoint]
  have hpres : identifiers? isPreIdentifier (joined? s.pre) = some s.pre :=
    (identifiers?_eq_some_iff fun _ => point_not_mem_of_isPreIdentifier).2
      ⟨rfl, fun identifier h => isPreIdentifier_iff.2 (s.pre_valid identifier h)⟩
  have hbuilds : identifiers? isIdentifier (joined? s.build) = some s.build :=
    (identifiers?_eq_some_iff fun _ => point_not_mem_of_isIdentifier).2
      ⟨rfl, fun identifier h => isIdentifier_iff.2 (s.build_valid identifier h)⟩
  simp only [read?, hbuild, hpre, hcore, hpres, hbuilds,
    readNumber?_eq_some_iff.2 ⟨rfl, s.major_le⟩, readNumber?_eq_some_iff.2 ⟨rfl, s.minor_le⟩,
    readNumber?_eq_some_iff.2 ⟨rfl, s.patch_le⟩]
  rfl

/-- **The strict form is read and nothing else.** -/
theorem read?_eq_some_iff {cs : List Char} {v : Semver} :
    read? cs = some v ↔ ∃ s : Strict, s.text = cs ∧ s.version = v := by
  constructor
  · exact exists_strict_of_read?
  · rintro ⟨s, rfl, rfl⟩
    exact read?_strict s

/-! ## The marks around a version -/

/-- What can stand around a version: blanks, one equals sign and one letter. -/
structure Marks where
  leading : List Char
  equals : Option Char
  gap : List Char
  letter : Option Char
  lastGap : List Char
  trailing : List Char
  leading_allBlank : allBlank leading = true
  equals_eq : ∀ c ∈ equals, c = '='
  gap_allBlank : allBlank gap = true
  letter_eq : ∀ c ∈ letter, c = 'v' ∨ c = 'V'
  lastGap_allBlank : allBlank lastGap = true
  trailing_allBlank : allBlank trailing = true

/-- A text with marks around it. -/
def Marks.around (m : Marks) (cs : List Char) : List Char :=
  m.leading ++ (m.equals.toList ++ (m.gap ++ (m.letter.toList ++ (m.lastGap ++ cs)))) ++ m.trailing

lemma isVersionLetter_iff {c : Char} : isVersionLetter c = true ↔ c = 'v' ∨ c = 'V' := by
  simp [isVersionLetter]

/-- There need not be any marks. -/
lemma exists_around_eq_self : ∃ m : Marks, ∀ cs, m.around cs = cs := by
  refine ⟨⟨[], none, [], none, [], [], rfl, by simp, rfl, by simp, rfl, rfl⟩, fun cs => ?_⟩
  simp [Marks.around]

/-- A mark and the blanks behind it are taken off, if they are there. -/
lemma trimStart_dropFirstIf {p : Char → Bool} {mark : Option Char}
    (hmark : ∀ c ∈ mark, p c = true ∧ isBlank c = false) {gap : List Char}
    (hgap : allBlank gap = true) {cs : List Char} (hcs : ∀ c ∈ (trimStart cs).head?, p c = false) :
    trimStart (dropFirstIf p (trimStart (mark.toList ++ (gap ++ cs)))) = trimStart cs := by
  have hskip : trimStart (gap ++ cs) = trimStart cs := trimStart_append hgap cs
  cases mark with
  | none =>
    have hdrop : dropFirstIf p (trimStart cs) = trimStart cs := by
      cases hstart : trimStart cs with
      | nil => rfl
      | cons c rest => rw [dropFirstIf, hcs c (by rw [hstart]; rfl)]; rfl
    rw [Option.toList_none, List.nil_append, hskip, hdrop, trimStart_trimStart]
  | some c =>
    obtain ⟨hc, hblank⟩ := hmark c rfl
    have hstart : trimStart (c :: (gap ++ cs)) = c :: (gap ++ cs) :=
      trimStart_eq_self (by simpa using hblank)
    rw [Option.toList_some, List.singleton_append, hstart, dropFirstIf, if_pos hc, hskip]

/-- **The marks around a version are taken off.** -/
theorem dropMarks_around (m : Marks) {cs : List Char} (hne : cs ≠ []) (hcs : Trimmed cs)
    (hequals : ∀ c ∈ cs.head?, c ≠ '=') (hletter : ∀ c ∈ cs.head?, isVersionLetter c = false) :
    dropMarks (m.around cs) = cs := by
  have hstart : trimStart cs = cs := trimStart_eq_self hcs.head
  have hmarks : trim (m.around cs) =
      trimStart (m.equals.toList ++ (m.gap ++ (m.letter.toList ++ (m.lastGap ++ cs)))) := by
    rw [Marks.around, List.append_assoc]
    refine trim_append m.leading_allBlank m.trailing_allBlank (by simp [hne]) ?_
    simpa only [← List.append_assoc, List.getLast?_append_of_ne_nil _ hne] using hcs.last
  have hequalsMark : ∀ c ∈ m.equals, decide (c = '=') = true ∧ isBlank c = false := by
    intro c hc
    rw [m.equals_eq c hc]
    decide
  have hletterMark : ∀ c ∈ m.letter, isVersionLetter c = true ∧ isBlank c = false := by
    intro c hc
    rcases m.letter_eq c hc with rfl | rfl <;> decide
  -- behind the equals sign comes the letter or the version
  have hbehind : ∀ c ∈ (trimStart (m.letter.toList ++ (m.lastGap ++ cs))).head?,
      decide (c = '=') = false := by
    intro c hc
    cases hm : m.letter with
    | none =>
      rw [hm, Option.toList_none, List.nil_append, trimStart_append m.lastGap_allBlank,
        hstart] at hc
      simpa using hequals c hc
    | some d =>
      obtain ⟨hd, hblank⟩ := hletterMark d hm
      rw [hm, Option.toList_some, List.singleton_append, trimStart_eq_self (by simpa using hblank),
        List.head?_cons] at hc
      obtain rfl := Option.some.inj hc
      rcases isVersionLetter_iff.1 hd with rfl | rfl <;> decide
  rw [dropMarks, hmarks, trimStart_dropFirstIf hequalsMark m.gap_allBlank hbehind,
    trimStart_dropFirstIf hletterMark m.lastGap_allBlank (by rwa [hstart]), hstart]

/-- A mark and the blanks behind it are all that is taken off. -/
lemma exists_mark (p : Char → Bool) (cs : List Char) : ∃ (mark : Option Char) (gap : List Char),
    cs = mark.toList ++ (gap ++ trimStart (dropFirstIf p cs)) ∧ (∀ c ∈ mark, p c = true) ∧
      allBlank gap = true := by
  have hgap (cs : List Char) : cs = cs.takeWhile isBlank ++ trimStart cs :=
    List.takeWhile_append_dropWhile.symm
  cases cs with
  | nil => exact ⟨none, [], rfl, by simp, rfl⟩
  | cons c cs =>
    by_cases hc : p c = true
    · refine ⟨some c, cs.takeWhile isBlank, ?_, by simpa using hc, List.all_takeWhile⟩
      rw [dropFirstIf, if_pos hc, ← hgap]
      rfl
    · refine ⟨none, (c :: cs).takeWhile isBlank, ?_, by simp, List.all_takeWhile⟩
      rw [dropFirstIf, if_neg hc, ← hgap]
      rfl

/-- **Nothing but marks is taken off.** -/
theorem exists_marks (cs : List Char) : ∃ m : Marks, m.around (dropMarks cs) = cs := by
  obtain ⟨leading, trailing, hcs, hleading, htrailing⟩ := exists_trim_append cs
  obtain ⟨equals, gap, hequals, hequalsMark, hgap⟩ := exists_mark (· = '=') (trim cs)
  obtain ⟨letter, lastGap, hletter, hletterMark, hlastGap⟩ :=
    exists_mark isVersionLetter (trimStart (dropFirstIf (· = '=') (trim cs)))
  refine ⟨{
    leading := leading
    equals := equals
    gap := gap
    letter := letter
    lastGap := lastGap
    trailing := trailing
    leading_allBlank := hleading
    equals_eq := fun c hc => of_decide_eq_true (hequalsMark c hc)
    gap_allBlank := hgap
    letter_eq := fun c hc => isVersionLetter_iff.1 (hletterMark c hc)
    lastGap_allBlank := hlastGap
    trailing_allBlank := htrailing }, ?_⟩
  rw [Marks.around, dropMarks, ← hletter, ← hequals, List.append_assoc, ← hcs]

/-! ## Versions with marks around them -/

namespace Strict

variable (s : Strict)

lemma mem_text {c : Char} (h : c ∈ s.text) :
    c.isAlphanum = true ∨ c = '.' ∨ c = '-' ∨ c = '+' := by
  rcases List.mem_append.1 h with h | h
  · rcases mem_plain h with h | h | h
    · exact Or.inl h
    · exact Or.inr (Or.inl h)
    · exact Or.inr (Or.inr (Or.inl h))
  · rcases mem_behind s.build_valid h with h | h | h
    · exact Or.inr (Or.inr (Or.inr h))
    · exact Or.inr (Or.inl h)
    · rw [isIdentifierChar, Bool.or_eq_true, decide_eq_true_iff] at h
      rcases h with h | h
      · exact Or.inl h
      · exact Or.inr (Or.inr (Or.inl h))

/-- No character of a version is a blank. -/
lemma trimmed_text : Trimmed s.text := by
  refine trimmed_of_forall fun c hc => ?_
  rw [← Bool.not_eq_true, isBlank_iff]
  rcases s.mem_text hc with h | rfl | rfl | rfl
  · rw [isAlphanum_iff, isUpper_iff, isLower_iff, isDigit_iff] at h
    omega
  · decide
  · decide
  · decide

/-- A version starts with the first digit of its first number. -/
theorem exists_plain_eq_cons : ∃ d rest, s.plain = d :: rest ∧ d.isDigit = true := by
  obtain ⟨hne, hdigits⟩ := Pep440.run_ofNat s.major
  obtain ⟨d, digits, hcons⟩ := List.exists_cons_of_ne_nil hne
  rw [plain, core, joinWith_cons _ _ (by simp), hcons]
  exact ⟨d, _, rfl, hdigits d (by simp [hcons])⟩

/-- The same version without its build. -/
def withoutBuild : Strict := { s with build := [], build_valid := by simp }

lemma text_withoutBuild : s.withoutBuild.text = s.plain := List.append_nil _

/-- The text that is written for a version is its text without the build. -/
lemma text_version : s.version.text = s.plain := by
  rw [Semver.text, plain, core, version]
  cases s.pre with
  | nil => rfl
  | cons identifier identifiers => rfl

end Strict

/-- **A text is read exactly if it is a strict version with marks around it.** -/
theorem readLoose?_eq_some_iff {cs : List Char} {v : Semver} :
    readLoose? cs = some v ↔
      ∃ (m : Marks) (s : Strict), m.around s.text = cs ∧ s.version = v := by
  rw [readLoose?, read?_eq_some_iff]
  constructor
  · rintro ⟨s, hs, rfl⟩
    obtain ⟨m, hm⟩ := exists_marks cs
    exact ⟨m, s, by rw [hs, hm], rfl⟩
  · rintro ⟨m, s, rfl, rfl⟩
    obtain ⟨d, rest, hplain, hd⟩ := s.exists_plain_eq_cons
    have htext : s.text = d :: (rest ++ behind '+' s.build) := by
      rw [Strict.text, hplain]
      rfl
    refine ⟨s, (dropMarks_around m ?_ s.trimmed_text ?_ ?_).symm, rfl⟩
    · simp [htext]
    · rw [htext]
      rintro c ⟨⟩ rfl
      exact absurd hd (by decide)
    · rw [htext]
      rintro c ⟨⟩
      rw [← Bool.not_eq_true, isVersionLetter_iff]
      rintro (rfl | rfl) <;> exact absurd hd (by decide)

end Semver

namespace Dialect

open Semver

lemma read?_semver_iff {raw : String} {reading : VersionReading} :
    semver.read? raw = some reading ↔ ∃ (m : Marks) (s : Strict),
      m.around s.text = raw.toList ∧
        reading = ⟨raw, String.ofList s.plain, s.major, s.minor, s.patch, s.pre ≠ []⟩ := by
  rw [read?_semver_eq_some_iff]
  constructor
  · rintro ⟨v, hv, rfl⟩
    obtain ⟨m, s, hm, rfl⟩ := readLoose?_eq_some_iff.1 hv
    refine ⟨m, s, hm, ?_⟩
    rw [s.text_version]
    rfl
  · rintro ⟨m, s, hm, rfl⟩
    refine ⟨s.version, readLoose?_eq_some_iff.2 ⟨m, s, hm, rfl⟩, ?_⟩
    rw [s.text_version]
    rfl

/-- The text without the build is read as the same version. -/
lemma read?_plain (s : Strict) : semver.read? (String.ofList s.plain) = some
    ⟨String.ofList s.plain, String.ofList s.plain, s.major, s.minor, s.patch, s.pre ≠ []⟩ := by
  obtain ⟨m, hm⟩ := exists_around_eq_self
  refine read?_semver_iff.2 ⟨m, s.withoutBuild, ?_, ?_⟩
  · rw [hm, s.text_withoutBuild, String.toList_ofList]
  · rw [← s.withoutBuild.text_version, ← s.text_version]
    rfl

/-- **A text is a semantic version exactly if it is a strict version with marks around it.**  It is
read as its numbers and its text without the build, and is unstable if it has a pre-release.  That
text has ASCII letters, digits, points and hyphens only, starts with a digit and is read as the same
version again. -/
theorem read?_semver_by_marks (raw : String) :
    (∀ reading, semver.read? raw = some reading ↔ ∃ (m : Marks) (s : Strict),
      m.around s.text = raw.toList ∧
        reading = ⟨raw, String.ofList s.plain, s.major, s.minor, s.patch, s.pre ≠ []⟩) ∧
    ∀ reading, semver.read? raw = some reading →
      (∀ c ∈ reading.version.toList, c.isAlphanum = true ∨ c = '.' ∨ c = '-') ∧
      (∃ d rest, reading.version.toList = d :: rest ∧ d.isDigit = true) ∧
      semver.read? reading.version = some { reading with raw := reading.version } := by
  refine ⟨fun reading => read?_semver_iff, ?_⟩
  intro reading h
  obtain ⟨m, s, -, rfl⟩ := read?_semver_iff.1 h
  rw [String.toList_ofList]
  exact ⟨fun c hc => s.mem_plain hc, s.exists_plain_eq_cons, read?_plain s⟩

/-- A pre-release with a build and all marks around it. -/
theorem read?_semver_of_marked_candidate : ∃ reading,
    semver.read? "\t= V 1.2.3-rc.4+Linux.05 " = some reading ∧
      reading.version = "1.2.3-rc.4" ∧ reading.unstable = true ∧
      (∀ c ∈ reading.version.toList, c.isAlphanum = true ∨ c = '.' ∨ c = '-') ∧
      (∃ d rest, reading.version.toList = d :: rest ∧ d.isDigit = true) ∧
      semver.read? reading.version = some { reading with raw := reading.version } := by
  have h : semver.read? "\t= V 1.2.3-rc.4+Linux.05 " =
      some ⟨"\t= V 1.2.3-rc.4+Linux.05 ", "1.2.3-rc.4", 1, 2, 3, true⟩ := by cbv
  exact ⟨_, h, rfl, rfl, (read?_semver_by_marks _).2 _ h⟩

end Dialect

end ImageTags
