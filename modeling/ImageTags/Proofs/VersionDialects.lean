import Mathlib
import ImageTags.Proofs.SemanticVersions

/-!
# The two dialects of versions agree

A text can be a semantic version and a version by PEP 440 at once.  Both readings then have the same
three numbers, and one of them is a pre-release exactly if the other one is unstable.

* `Semver.Strict.tail_version` — what follows the numbers of a semantic version.
* `Pep440.of_readLoose?` — what they are by PEP 440.
* **`Dialect.readings_agree`** — both readings agree.
* `Dialect.unstable_eq` — no two dialects disagree about a text being stable.
-/

namespace ImageTags

open Text

/-! ## The parts of a semantic version -/

namespace Semver

/-- What follows the numbers of a version: nothing or a plus sign and a build, after a release, and
a hyphen after another one. -/
def Tail (v : Semver) (tail : List Char) : Prop :=
  v.pre = [] ∧ (tail = [] ∨ ∃ build, tail = '+' :: build) ∨ v.pre ≠ [] ∧ ∃ pre, tail = '-' :: pre

/-- A strict version is three numbers with points between them and a tail. -/
lemma Strict.tail_version (s : Strict) :
    s.version.Tail (behind '-' s.pre ++ behind '+' s.build) := by
  cases hpre : s.pre with
  | nil =>
    refine Or.inl ⟨hpre, ?_⟩
    cases s.build with
    | nil => exact Or.inl rfl
    | cons identifier identifiers => exact Or.inr ⟨_, rfl⟩
  | cons identifier identifiers => exact Or.inr ⟨by simp [version, hpre], _, rfl⟩

end Semver

/-! ## The marks in front of a version -/

namespace Pep440

open Ways

/-- Both dialects know the same letter. -/
lemma isVersionLetter_eq (c : Char) : isVersionLetter c = Semver.isVersionLetter c := by
  rw [Bool.eq_iff_iff]
  constructor
  · intro h
    have hv : plainLetter c = 'v' := of_decide_eq_true h
    have hs : c ≠ 'ſ' := by rintro rfl; exact absurd hv (by decide)
    have hk : c ≠ '\u212a' := by rintro rfl; exact absurd hv (by decide)
    rw [plainLetter, if_neg hs, if_neg hk] at hv
    by_cases hupper : c.isUpper = true
    · have h32 := toNat_toLower hupper
      rw [hv, show 'v'.toNat = 'V'.toNat + 32 from rfl] at h32
      rw [← Char.toNat_inj.1 (Nat.add_right_cancel h32)]
      decide
    · rw [toLower_of_not_isUpper hupper] at hv
      rw [hv]
      decide
  · intro h
    rcases (Bool.or_eq_true _ _).mp h with h | h <;> rw [of_decide_eq_true h] <;> decide

/-- The text of a version behind the blanks and the letter in front of it. -/
def body (cs : List Char) : List Char := dropFirstIf isVersionLetter (trimStart cs)

lemma startsWith_body {cs : List Char} {parts : Parts} (h : pattern.first? cs = some parts) :
    StartsWith Char.isDigit (body cs) := by
  rw [first?_pattern] at h
  exact startsWith_of_fromEpoch h

/-- The marks in front of a semantic version leave the same text, but for blanks at its end. -/
lemma dropMarks_eq {cs : List Char} (h : StartsWith Char.isDigit (body cs)) :
    Semver.dropMarks cs = trimEnd (body cs) := by
  obtain ⟨d, digits, hbody, hd⟩ := startsWith_iff.1 h
  have hblank := not_isBlank_of_isDigit hd
  have hequals : d ≠ '=' := by rintro rfl; exact absurd hd (by decide)
  have hletter : isVersionLetter d = false := by
    rw [← Bool.not_eq_true]
    intro hv
    simp [not_isDigit_of_isLetter (isLetter_of_isVersionLetter hv)] at hd
  have hstart : trimStart (d :: trimEnd digits) = d :: trimEnd digits :=
    trimStart_eq_self (by simpa using hblank)
  rw [Semver.dropMarks, trim, hbody, trimEnd_cons hblank]
  rw [body] at hbody
  cases hcs : trimStart cs with
  | nil =>
    rw [hcs] at hbody
    simp [dropFirstIf] at hbody
  | cons c rest =>
    rw [hcs, dropFirstIf] at hbody
    by_cases hc : isVersionLetter c = true
    · rw [if_pos hc] at hbody
      subst hbody
      have hblank' := not_isBlank_of_isLetter (isLetter_of_isVersionLetter hc)
      have hequals' : c ≠ '=' := by rintro rfl; exact absurd hc (by decide)
      have hstart' : trimStart (c :: d :: trimEnd digits) = c :: d :: trimEnd digits :=
        trimStart_eq_self (by simpa using hblank')
      rw [trimEnd_cons hblank', trimEnd_cons hblank, dropFirstIf, if_neg (by simpa using hequals'),
        hstart', dropFirstIf, if_pos (isVersionLetter_eq c ▸ hc), hstart]
    · rw [if_neg hc] at hbody
      obtain ⟨rfl, rfl⟩ := List.cons_eq_cons.1 hbody
      rw [trimEnd_cons hblank, dropFirstIf, if_neg (by simpa using hequals), hstart, dropFirstIf,
        if_neg (isVersionLetter_eq c ▸ hc), hstart]

/-! ## Versions that are stable -/

/-- Parts without any of those that make a version unstable. -/
def Parts.Stable (parts : Parts) : Prop :=
  parts.pre = none ∧ parts.post = none ∧ parts.dev = none

lemma isUnstable_iff {parts : Parts} {v : Pep440} (h : parts.version? = some v) :
    v.isUnstable = true ↔ ¬ parts.Stable := by
  obtain ⟨release, -, h⟩ := Option.bind_eq_some_iff.1 h
  obtain ⟨major, -, h⟩ := Option.bind_eq_some_iff.1 h
  obtain rfl := Option.some.inj h
  simp only [isUnstable, Parts.Stable, Option.isSome_map, Bool.or_eq_true,
    Option.isSome_iff_ne_none, not_and_or, or_assoc, ne_eq]

lemma take?_eq_none_of_found {α : Type} {take? : List Char → Option (α × List Char)}
    {cs : List Char} (h : found take? cs = none) : take? cs = none :=
  Option.map_eq_none_iff.1 h

/-- The parts that make a version unstable are those that start with a separator or a letter. -/
lemma stable_iff {cs : List Char} {parts : Parts} (h : fromPre.first? cs = some parts) :
    parts.Stable ↔ ¬ StartsWith isSeparator cs ∧ ¬ StartsWith isLetter cs := by
  obtain ⟨hpre, hpost, hdev, -, hend⟩ := of_first?_fromPre h
  constructor
  · rintro ⟨hpre', hpost', hdev'⟩
    rw [left_of_none (take?_eq_none_of_found (hpre.symm.trans hpre'))] at hpost hdev hend
    rw [left_of_none (take?_eq_none_of_found (hpost.symm.trans hpost'))] at hdev hend
    rw [left_of_none (take?_eq_none_of_found (hdev.symm.trans hdev'))] at hend
    exact ⟨fun hsep => not_matches_fromLabel_of_separator hsep hend,
      fun hletter => not_matches_fromLabel_of_letter hletter hend⟩
  · rintro ⟨hsep, hletter⟩
    have hnamed {names : List (List Char)} (hnames : WellNamed names) :
        takeNamed? names cs = none :=
      takeNamed?_eq_none hnames (by rwa [dropSeparator_eq_self hsep])
    have hpre' : takePre? cs = none := hnamed wellNamed_phaseNames
    have hpost' : takePost? cs = none := by
      rw [takePost?, takeBarePost?_eq_none hsep, takeDigits?, hnamed wellNamed_postNames]
      rfl
    have hdev' : takeDev? cs = none := by
      rw [takeDev?, takeDigits?, hnamed wellNamed_devNames]
      rfl
    rw [left_of_none hpre'] at hpost hdev
    rw [left_of_none hpost'] at hdev
    exact ⟨hpre.trans (found_of_none hpre'), hpost.trans (found_of_none hpost'),
      hdev.trans (found_of_none hdev')⟩

end Pep440

/-! ## Both readings -/

open Ways

/-- The tail of a semantic version is not more of a release. -/
lemma Semver.Tail.ends_release {v : Semver} {tail blanks : List Char} (h : v.Tail tail)
    (hblanks : allBlank blanks = true) :
    ¬ GoesOn (· = '.') Char.isDigit (tail ++ blanks) ∧ ¬ StartsWith (· = '!') (tail ++ blanks) := by
  rcases h with ⟨-, rfl | ⟨build, rfl⟩⟩ | ⟨-, pre, rfl⟩
  · cases blanks with
    | nil => simp [GoesOn]
    | cons c blanks =>
      have hc : isBlank c = true := List.all_eq_true.1 hblanks c List.mem_cons_self
      have hcode := isBlank_iff.1 hc
      have hdigit : ¬ c.isDigit = true := by
        rw [isDigit_iff]
        omega
      have hdot : c ≠ '.' := by rintro rfl; exact absurd hc (by decide)
      have hmark : c ≠ '!' := by rintro rfl; exact absurd hc (by decide)
      simp [GoesOn, hdigit, hdot, hmark]
  · simp [GoesOn]
  · simp [GoesOn]

/-- The tail of a semantic version starts like a part that makes a version unstable by PEP 440
exactly if it is a pre-release. -/
lemma Semver.Tail.pre_iff {v : Semver} {tail blanks : List Char} (h : v.Tail tail)
    (hblanks : allBlank blanks = true) :
    v.pre = [] ↔ ¬ StartsWith Pep440.isSeparator (tail ++ blanks) ∧
      ¬ StartsWith Pep440.isLetter (tail ++ blanks) := by
  rcases h with ⟨hpre, rfl | ⟨build, rfl⟩⟩ | ⟨hpre, pre, rfl⟩
  · cases blanks with
    | nil => simp [hpre]
    | cons c blanks =>
      have hc : isBlank c = true := List.all_eq_true.1 hblanks c List.mem_cons_self
      have hsep : ¬ Pep440.isSeparator c = true := by
        intro hsep
        simp [(Pep440.of_isSeparator hsep).2.2.1] at hc
      have hletter : ¬ Pep440.isLetter c = true := by
        intro hletter
        simp [Pep440.not_isBlank_of_isLetter hletter] at hc
      simp [hpre, hsep, hletter]
  · have hplus : Pep440.isSeparator '+' = false ∧ Pep440.isLetter '+' = false := by decide
    simp [hpre, hplus]
  · have hhyphen : Pep440.isSeparator '-' = true := by decide
    simp [hpre, hhyphen]

/-- A text that is a version in both dialects has the three numbers of the semantic version for its
release, and what follows them makes it unstable exactly if they are a pre-release. -/
lemma Pep440.of_readLoose? {cs : List Char} {v : Semver} {w : Pep440}
    (hv : Semver.readLoose? cs = some v) (hw : Pep440.read? cs = some w) :
    w.major = v.major ∧ w.others = [v.minor, v.patch] ∧ (w.isUnstable = true ↔ v.pre ≠ []) := by
  obtain ⟨parts, hparts, hw⟩ := Option.bind_eq_some_iff.1 hw
  -- both dialects read the same text, up to blanks at its end
  have hbody := Pep440.startsWith_body hparts
  obtain ⟨blanks, hblanks, hallBlank⟩ := exists_trimEnd_append (Pep440.body cs)
  rw [Semver.readLoose?, Pep440.dropMarks_eq hbody] at hv
  obtain ⟨s, htext, rfl⟩ := Semver.read?_eq_some_iff.1 hv
  have htail := s.tail_version
  -- the core of one is the release of the other
  let digits := [s.major, s.minor, s.patch].map Numeral.ofNat
  have hruns : Pep440.Runs digits :=
    ⟨by simp [digits], List.forall_mem_map.2 fun n _ => Pep440.run_ofNat n⟩
  have hwhole : Pep440.body cs = joinWith ['.'] digits ++
      (Semver.behind '-' s.pre ++ Semver.behind '+' s.build ++ blanks) := by
    rw [hblanks, ← htext, Semver.Strict.text, Semver.Strict.plain, List.append_assoc,
      List.append_assoc, List.append_assoc]
    rfl
  obtain ⟨hgoes, hmark⟩ := htail.ends_release hallBlank
  have hfirst : Pep440.fromEpoch.first? (Pep440.body cs) = some parts :=
    (Pep440.first?_pattern _).symm.trans hparts
  rw [hwhole, Pep440.first?_fromEpoch_joinWith hruns hgoes hmark] at hfirst
  obtain ⟨rest, hrest, rfl⟩ := Option.map_eq_some_iff.1 hfirst
  have hnumbers : digits.mapM Numeral.readWord? = some [s.major, s.minor, s.patch] := by
    simp [digits, Numeral.readWord?_ofNat s.major_le, Numeral.readWord?_ofNat s.minor_le,
      Numeral.readWord?_ofNat s.patch_le]
  have hunstable := Pep440.isUnstable_iff hw
  rw [Pep440.version?_eq_some hruns rfl hnumbers] at hw
  obtain rfl := Option.some.inj hw
  refine ⟨rfl, rfl, ?_⟩
  -- and what follows it makes both unstable or neither
  have hstable := (htail.pre_iff hallBlank).trans (Pep440.stable_iff hrest).symm
  exact hunstable.trans (not_congr hstable).symm

/-- A semantic version and a version by PEP 440 that are read from one text are both stable or
neither. -/
lemma Dialect.unstable_eq_of_semver {raw : String} {a b : VersionReading}
    (ha : semver.read? raw = some a) (hb : pep440.read? raw = some b) :
    a.unstable = b.unstable := by
  obtain ⟨v, hv, rfl⟩ := read?_semver_eq_some_iff.1 ha
  obtain ⟨w, hw, rfl⟩ := read?_pep440_eq_some_iff.1 hb
  rw [Bool.eq_iff_iff, decide_eq_true_iff, (Pep440.of_readLoose? hv hw).2.2]

/-- **What both dialects read they read alike**: the three numbers are the same, and so is what
is said about being stable. -/
theorem Dialect.readings_agree {raw : String} {a b : VersionReading}
    (ha : semver.read? raw = some a) (hb : pep440.read? raw = some b) :
    a.major = b.major ∧ a.minor = b.minor ∧ a.patch = b.patch ∧ a.unstable = b.unstable := by
  have hunstable := unstable_eq_of_semver ha hb
  obtain ⟨v, hv, rfl⟩ := read?_semver_eq_some_iff.1 ha
  obtain ⟨w, hw, rfl⟩ := read?_pep440_eq_some_iff.1 hb
  obtain ⟨hmajor, hothers, -⟩ := Pep440.of_readLoose? hv hw
  refine ⟨hmajor.symm, ?_, ?_, hunstable⟩
  · simp [Pep440.minor, hothers]
  · simp [Pep440.patch, hothers]

/-- A pre-release with a build, read in both dialects. -/
theorem Dialect.readings_of_candidate : ∃ a b,
    semver.read? "\tv1.2.3-rc.4+Linux.5 " = some a ∧
      pep440.read? "\tv1.2.3-rc.4+Linux.5 " = some b ∧
      a.version = "1.2.3-rc.4" ∧ b.version = "1.2.3rc4+linux.5" ∧
      a.major = b.major ∧ a.minor = b.minor ∧ a.patch = b.patch ∧ a.unstable = b.unstable := by
  have ha : semver.read? "\tv1.2.3-rc.4+Linux.5 " =
      some ⟨"\tv1.2.3-rc.4+Linux.5 ", "1.2.3-rc.4", 1, 2, 3, true⟩ := by cbv
  have hb : pep440.read? "\tv1.2.3-rc.4+Linux.5 " =
      some ⟨"\tv1.2.3-rc.4+Linux.5 ", "1.2.3rc4+linux.5", 1, 2, 3, true⟩ := by cbv
  exact ⟨_, _, ha, hb, rfl, rfl, readings_agree ha hb⟩

/-- **No two dialects disagree about a text being stable.** -/
theorem Dialect.unstable_eq {d d' : Dialect} {raw : String} {a b : VersionReading}
    (ha : d.read? raw = some a) (hb : d'.read? raw = some b) : a.unstable = b.unstable := by
  cases d with
  | semver =>
    cases d' with
    | semver => rw [Option.some.inj (ha.symm.trans hb)]
    | pep440 => exact unstable_eq_of_semver ha hb
  | pep440 =>
    cases d' with
    | semver => exact (unstable_eq_of_semver hb ha).symm
    | pep440 => rw [Option.some.inj (ha.symm.trans hb)]

end ImageTags
