import Mathlib
import ImageTags.Proofs.SpellingReading
import ImageTags.Proofs.VersionLayout

/-!
# The numbers of a version

The numbers that are read are compared with the digits that are written.  The numbers of a release
are read as they are written, or the text is refused.  The numbers of the epoch and of the optional
parts are never a reason to refuse a text: one that does not fit in 64 bits is taken for 0, and so
versions that differ can be read as the same one.

* `writtenNumber`, `keptNumber` — the value of the digits of a part, and what is left of it.
* `Layout.exists_first?_pattern` — every layout of a text has the same release.
* **`numbers_of_read?`** — the numbers of a version and the texts that are refused.
-/

namespace ImageTags.Pep440

open Text Ways

/-- The number that is written for a part: the value of its digits, 0 where they are left out. -/
def writtenNumber (digits : Option (List Char)) : Nat := (digits.map Numeral.value).getD 0

/-- The number that is kept for a part: 0 instead of one that does not fit in 64 bits. -/
def keptNumber (digits : Option (List Char)) : Nat :=
  if writtenNumber digits ≤ Numeral.maxWord then writtenNumber digits else 0

/-- The numbers that are written for a release. -/
def Parts.releaseNumbers (parts : Parts) : List Nat :=
  (splitEach '.' parts.release).map Numeral.value

/-- Whether a version has the numbers of some parts: those of the release as they are written, and
for the other parts what is kept. -/
structure Counts (v : Pep440) (parts : Parts) : Prop where
  epoch : v.epoch = keptNumber parts.epoch
  release : v.major :: v.others = parts.releaseNumbers
  pre : v.pre.map Prod.snd = parts.pre.map fun part => keptNumber part.2
  post : v.post = parts.post.map keptNumber
  dev : v.dev = parts.dev.map keptNumber

/-! ## The numbers that are kept -/

lemma number_eq_keptNumber {digits : Option (List Char)}
    (h : ∀ run ∈ digits, Run Char.isDigit run) : number digits = keptNumber digits := by
  cases digits with
  | none => rfl
  | some run =>
    obtain ⟨hne, hdigits⟩ := h run rfl
    rw [number, keptNumber, Option.bind_some, Numeral.readWord?]
    by_cases hmax : Numeral.value run ≤ Numeral.maxWord
    · rw [if_pos ⟨hne, List.all_eq_true.2 hdigits, hmax⟩]
      exact (if_pos hmax).symm
    · rw [if_neg fun h => hmax h.2.2]
      exact (if_neg hmax).symm

/-! ## The release -/

/-- Numbers with points between them are the numerals of some runs of digits. -/
lemma exists_digits {release : List Char} (h : RunsBetween (· = '.') Char.isDigit release) :
    ∃ major others, release = joinWith ['.'] ((major :: others).map Digits.text) := by
  induction h with
  | @last run hrun => exact ⟨⟨run, hrun.1, hrun.2⟩, [], rfl⟩
  | @cons run rest c hrun hc _ ih =>
    obtain ⟨next, others, rfl⟩ := ih
    obtain rfl := of_decide_eq_true hc
    exact ⟨⟨run, hrun.1, hrun.2⟩, next :: others, by simp [joinWith]⟩

namespace Layout

variable {parts : Parts}

/-- The runs of digits of a release. -/
lemma runs_release (l : Layout parts) :
    ∀ run ∈ splitEach '.' parts.release, Run Char.isDigit run := by
  obtain ⟨major, others, hrelease⟩ := exists_digits l.release_runs
  rw [hrelease, splitEach_runs (runs_texts major others)]
  exact (runs_texts major others).2

/-- **Every layout of a text has the epoch and the release that count.**  What is written behind a
release cannot be taken for more of it. -/
theorem exists_first?_pattern (l : Layout parts) : ∃ last : Parts,
    pattern.first? l.text = some { last with epoch := parts.epoch, release := parts.release } := by
  have hend : ∃ last, fromPre.first? l.afterRelease = some last :=
    readsAll_fromPre.exists_first? (a := { parts with epoch := none, release := [] })
      ⟨l.pre, l.post, l.dev, l.trailing, rfl, rfl, rfl, l.pre_writes, l.post_writes, l.dev_writes,
        l.label_runs, l.trailing_allBlank⟩
  obtain ⟨last, hlast⟩ := hend
  obtain ⟨major, others, hrelease⟩ := exists_digits l.release_runs
  have hepoch : ∃ epoch : Option Digits, parts.epoch = epoch.map Digits.text := by
    cases hparts : parts.epoch with
    | none => exact ⟨none, rfl⟩
    | some run =>
      obtain ⟨hne, hdigits⟩ := l.epoch_run run hparts
      exact ⟨some ⟨run, hne, hdigits⟩, rfl⟩
  obtain ⟨epoch, hepoch⟩ := hepoch
  have hletter : optText ([·]) l.letter = l.letter.toList := by cases l.letter <;> rfl
  have hmark : optText (· ++ ['!']) parts.epoch =
      optText (fun digits => digits.text ++ ['!']) epoch := by
    rw [hepoch]
    cases epoch <;> rfl
  have hfound := first?_pattern_text (List.all_eq_true.2 l.blanks_allBlank)
    l.letter_isVersionLetter (first?_fromEpoch_texts epoch major others hlast)
  refine ⟨last, ?_⟩
  rw [text, hletter, hmark, hrelease, hfound, hepoch]

/-- Parts are read as a version if the numbers of the release fit in 64 bits. -/
lemma isSome_version? (l : Layout parts) : parts.version?.isSome ↔
    ∀ run ∈ splitEach '.' parts.release, Numeral.value run ≤ Numeral.maxWord := by
  rw [Option.isSome_iff_exists]
  constructor
  · rintro ⟨v, hv⟩ run hrun
    obtain ⟨numbers, hnumbers, -⟩ := Option.bind_eq_some_iff.1 hv
    exact ((Numeral.mapM_readWord?_eq_some_iff.1 hnumbers).1 run hrun).2.2
  · intro h
    have hnumbers : (splitEach '.' parts.release).mapM Numeral.readWord? =
        some ((splitEach '.' parts.release).map Numeral.value) := by
      refine Numeral.mapM_readWord?_eq_some_iff.2 ⟨fun run hrun => ?_, rfl⟩
      obtain ⟨hne, hdigits⟩ := l.runs_release run hrun
      exact ⟨hne, hdigits, h run hrun⟩
    rw [Parts.version?, hnumbers]
    cases hrelease : splitEach '.' parts.release with
    | nil => exact absurd hrelease (splitEach_ne_nil '.' parts.release)
    | cons run runs => exact ⟨_, rfl⟩

/-- The numbers of the version that is read from some parts. -/
lemma counts_of_version? (l : Layout parts) {v : Pep440} (h : parts.version? = some v) :
    v.Counts parts := by
  obtain ⟨numbers, hnumbers, h⟩ := Option.bind_eq_some_iff.1 h
  obtain ⟨major, hmajor, h⟩ := Option.bind_eq_some_iff.1 h
  obtain rfl := Option.some.inj h
  obtain ⟨-, rfl⟩ := Numeral.mapM_readWord?_eq_some_iff.1 hnumbers
  constructor
  case epoch => exact number_eq_keptNumber l.epoch_run
  case release =>
    obtain ⟨others, hothers⟩ := List.head?_eq_some_iff.1 hmajor
    rw [Parts.releaseNumbers, hothers, List.tail_cons]
  case pre =>
    rw [Option.map_map]
    exact l.pre_writes.map_congr fun _ h => number_eq_keptNumber h.run
  case post => exact l.post_writes.map_congr fun _ h => number_eq_keptNumber h.run
  case dev => exact l.dev_writes.map_congr fun _ h => number_eq_keptNumber h.run

end Layout

/-! ## The version that is read -/

/-- **The numbers of a version are those of the digits that are written for them**, in the layout
that counts, but where digits in front of the release or behind it do not fit in 64 bits the number
is 0.  A text with a layout is refused exactly if a number of its release does not fit. -/
theorem numbers_of_read? (cs : List Char) :
    (∀ v, read? cs = some v → ∃ parts, ∃ l : Layout parts, l.text = cs ∧
      pattern.first? cs = some parts ∧ v.Counts parts) ∧
    ∀ parts, ∀ l : Layout parts, l.text = cs →
      ((read? cs).isSome ↔ ∀ n ∈ parts.releaseNumbers, n ≤ Numeral.maxWord) := by
  constructor
  · intro v h
    obtain ⟨parts, hparts, hv⟩ := Option.bind_eq_some_iff.1 h
    obtain ⟨l, hl⟩ := readsAll_pattern.of_first? hparts
    exact ⟨parts, l, hl, hparts, l.counts_of_version? hv⟩
  · rintro parts l rfl
    obtain ⟨last, hlast⟩ := l.exists_first?_pattern
    -- the parts that count may be laid out in another way, but not the release
    obtain ⟨l', -⟩ := readsAll_pattern.of_first? hlast
    rw [read?, hlast, Option.bind_some, l'.isSome_version?, Parts.releaseNumbers,
      List.forall_mem_map]

/-- A pre-release whose number is the first that does not fit: it is read as the version with the
number 0. -/
theorem read?_of_long_number : ∃ parts, ∃ l : Layout parts,
    l.text = "1.0a18446744073709551616".toList ∧ pattern.first? l.text = some parts ∧
      parts.pre = some (['a'], some (Numeral.ofNat (Numeral.maxWord + 1))) ∧
      read? l.text = some ⟨0, 1, [0], some (.alpha, 0), none, none, []⟩ ∧
      read? l.text = read? "1.0a0".toList := by
  let digits := Numeral.ofNat (Numeral.maxWord + 1)
  have hdigits : Run Char.isDigit digits := run_ofNat _
  have hrelease : RunsBetween (· = '.') Char.isDigit (['1'] ++ '.' :: ['0']) :=
    .cons (by simp [Run]) rfl (.last (by simp [Run]))
  let parts : Parts := { release := ['1', '.', '0'], pre := some (['a'], some digits) }
  let l : Layout parts := {
    blanks := []
    letter := none
    pre := 'a' :: digits
    post := []
    dev := []
    trailing := []
    blanks_allBlank := by simp
    letter_isVersionLetter := by simp
    epoch_run := by simp [parts]
    release_runs := hrelease
    pre_writes := ⟨none, none, by simp [id], by simp, by decide, by simp, by simpa using hdigits⟩
    post_writes := rfl
    dev_writes := rfl
    label_runs := by simp [parts]
    trailing_allBlank := rfl }
  have htext : l.text = "1.0a18446744073709551616".toList := by cbv
  have hfirst : pattern.first? l.text = some parts := by
    rw [htext]
    cbv
  have hzero : number (some digits) = 0 := by
    have hvalue : writtenNumber (some digits) = Numeral.maxWord + 1 := Numeral.value_ofNat _
    rw [number_eq_keptNumber (by simpa using hdigits), keptNumber, hvalue, if_neg (by omega)]
  have hread : read? l.text = some ⟨0, 1, [0], some (.alpha, 0), none, none, []⟩ := by
    have hruns : Runs [['1'], ['0']] := ⟨by simp, by simp⟩
    rw [read?, hfirst, Option.bind_some, version?_eq_some hruns rfl rfl]
    simp only [parts, Option.map_some, hzero]
    rfl
  exact ⟨parts, l, htext, hfirst, rfl, hread, hread.trans (by cbv)⟩

end ImageTags.Pep440
