import ImageTags.Proofs.VersionPattern

/-!
# What a version is read as

With the pattern taken apart, the version that a text stands for can be computed from the runs of
digits that make up its release and from what follows them.

* `first?_fromEpoch_joinWith` — a release without an epoch is taken whole.
* `version?_eq_some` — its numbers are those of its runs.
* `of_first?_fromPre` — the optional parts are the ones that are taken as they come.
* `exists_of_first?_pattern` — what follows the release is found from there alone.
-/

namespace ImageTags

/-- What a number of 64 bits is read from. -/
lemma Numeral.readWord?_eq_some_iff {digits : List Char} {n : Nat} :
    readWord? digits = some n ↔ digits ≠ [] ∧ (∀ c ∈ digits, c.isDigit = true) ∧
      value digits ≤ maxWord ∧ n = value digits := by
  rw [readWord?]
  split
  · next h =>
    obtain ⟨hne, hdigits, hmax⟩ := h
    rw [Option.some.injEq, eq_comm]
    exact ⟨fun hn => ⟨hne, List.all_eq_true.1 hdigits, hmax, hn⟩, fun hn => hn.2.2.2⟩
  · next h =>
    simp only [reduceCtorEq, false_iff]
    rintro ⟨hne, hdigits, hmax, -⟩
    exact h ⟨hne, List.all_eq_true.2 hdigits, hmax⟩

/-- What numbers of 64 bits are read from. -/
lemma Numeral.mapM_readWord?_eq_some_iff {runs : List (List Char)} {numbers : List Nat} :
    runs.mapM readWord? = some numbers ↔
      (∀ run ∈ runs, run ≠ [] ∧ (∀ c ∈ run, c.isDigit = true) ∧ value run ≤ maxWord) ∧
        numbers = runs.map value := by
  induction runs generalizing numbers with
  | nil =>
    constructor
    · intro h
      exact ⟨by simp, (Option.some.inj h).symm⟩
    · rintro ⟨-, rfl⟩
      rfl
  | cons run runs ih =>
    rw [List.mapM_cons, List.forall_mem_cons, List.map_cons]
    refine Option.bind_eq_some_iff.trans ?_
    constructor
    · rintro ⟨n, hn, h⟩
      obtain ⟨others, hothers, h⟩ := Option.bind_eq_some_iff.1 h
      obtain ⟨hne, hdigits, hmax, rfl⟩ := readWord?_eq_some_iff.1 hn
      obtain ⟨hruns, rfl⟩ := ih.1 hothers
      exact ⟨⟨⟨hne, hdigits, hmax⟩, hruns⟩, (Option.some.inj h).symm⟩
    · rintro ⟨⟨⟨hne, hdigits, hmax⟩, hruns⟩, rfl⟩
      refine ⟨_, readWord?_eq_some_iff.2 ⟨hne, hdigits, hmax, rfl⟩, ?_⟩
      rw [ih.2 ⟨hruns, rfl⟩]
      rfl

namespace Pep440

open Text Ways

/-! ## The release -/

/-- Runs of digits, of which none is empty. -/
def Runs (runs : List (List Char)) : Prop :=
  runs ≠ [] ∧ ∀ run ∈ runs, run ≠ [] ∧ ∀ c ∈ run, c.isDigit = true

lemma joinWith_cons_eq (run : List Char) (others : List (List Char)) :
    joinWith ['.'] (run :: others) =
      run ++ (others.map fun other => ('.', other)).flatMap fun x => x.1 :: x.2 := by
  induction others generalizing run with
  | nil => simp [joinWith]
  | cons other others ih =>
    rw [joinWith, ih, List.map_cons, List.flatMap_cons]
    · simp
    · simp

lemma spanRelease_joinWith {runs : List (List Char)} (hruns : Runs runs) {rest : List Char}
    (hrest : ¬ GoesOn (· = '.') Char.isDigit rest) :
    spanRelease (joinWith ['.'] runs ++ rest) = (joinWith ['.'] runs, rest) := by
  obtain ⟨run, others, rfl⟩ := List.exists_cons_of_ne_nil hruns.1
  obtain ⟨hrun, hothers⟩ := List.forall_mem_cons.1 hruns.2
  rw [joinWith_cons_eq, spanRelease]
  refine stretch_runs hrun.2 (fun x hx => ?_) hrest
  obtain ⟨other, hother, rfl⟩ := List.mem_map.1 hx
  exact ⟨decide_eq_true rfl, hothers other hother⟩

lemma startsWith_isDigit_joinWith {runs : List (List Char)} (hruns : Runs runs)
    (rest : List Char) : StartsWith Char.isDigit (joinWith ['.'] runs ++ rest) := by
  obtain ⟨run, others, rfl⟩ := List.exists_cons_of_ne_nil hruns.1
  obtain ⟨hne, hdigits⟩ := hruns.2 run List.mem_cons_self
  obtain ⟨c, run, rfl⟩ := List.exists_cons_of_ne_nil hne
  rw [joinWith_cons_eq]
  exact startsWith_cons.2 (hdigits c List.mem_cons_self)

/-- A release is no epoch unless an exclamation mark follows it. -/
lemma takeEpoch?_joinWith {runs : List (List Char)} (hruns : Runs runs) {rest : List Char}
    (hdigit : ¬ StartsWith Char.isDigit rest) (hmark : ¬ StartsWith (· = '!') rest) :
    takeEpoch? (joinWith ['.'] runs ++ rest) = none := by
  obtain ⟨run, others, rfl⟩ := List.exists_cons_of_ne_nil hruns.1
  obtain ⟨hrun, hothers⟩ := List.forall_mem_cons.1 hruns.2
  rw [Option.eq_none_iff_forall_ne_some]
  rintro ⟨digits, after⟩ hsome
  obtain ⟨-, -, hafter⟩ := takeEpoch?_eq_some_iff.1 hsome
  cases others with
  | nil =>
    rw [joinWith, dropWhile_run hrun.2 hdigit] at hafter
    exact hmark (hafter ▸ startsWith_cons.2 (by decide))
  | cons other others =>
    rw [joinWith_cons_eq, List.map_cons, List.flatMap_cons, List.append_assoc, List.append_assoc,
      dropWhile_run hrun.2 (by simp)] at hafter
    simp at hafter

/-- **A release is taken whole.** -/
theorem first?_fromRelease_joinWith {runs : List (List Char)} (hruns : Runs runs)
    {rest : List Char} (hrest : ¬ GoesOn (· = '.') Char.isDigit rest) :
    fromRelease.first? (joinWith ['.'] runs ++ rest) = (fromPre.first? rest).map fun parts =>
      { parts with release := joinWith ['.'] runs } := by
  rw [first?_fromRelease (startsWith_isDigit_joinWith hruns rest), spanRelease_joinWith hruns hrest]

/-- **A release without an epoch is taken whole.** -/
theorem first?_fromEpoch_joinWith {runs : List (List Char)} (hruns : Runs runs) {rest : List Char}
    (hrest : ¬ GoesOn (· = '.') Char.isDigit rest) (hmark : ¬ StartsWith (· = '!') rest) :
    fromEpoch.first? (joinWith ['.'] runs ++ rest) = (fromPre.first? rest).map fun parts =>
      { parts with release := joinWith ['.'] runs, epoch := none } := by
  have hepoch := takeEpoch?_joinWith hruns (fun hdigit => hrest (goesOn_of_startsWith hdigit)) hmark
  rw [first?_fromEpoch, left_of_none hepoch, found_of_none hepoch,
    first?_fromRelease_joinWith hruns hrest, Option.map_map]
  rfl

lemma splitEach_runs {runs : List (List Char)} (hruns : Runs runs) :
    splitEach '.' (joinWith ['.'] runs) = runs := by
  refine splitEach_joinWith hruns.1 fun run hrun hdot => ?_
  exact absurd ((hruns.2 run hrun).2 '.' hdot) (by decide)

/-- The version that is read from parts whose release is known. -/
lemma version?_eq_some {parts : Parts} {runs : List (List Char)} {major : Nat} {others : List Nat}
    (hruns : Runs runs) (hrelease : parts.release = joinWith ['.'] runs)
    (hnumbers : runs.mapM Numeral.readWord? = some (major :: others)) :
    parts.version? = some {
      epoch := number parts.epoch
      major
      others
      pre := parts.pre.map fun (name, digits) => (Phase.ofName name, number digits)
      post := parts.post.map number
      dev := parts.dev.map number
      label := (parts.label.map fun label => segments (label.map Char.toLower)).getD [] } := by
  rw [Parts.version?, hrelease, splitEach_runs hruns, hnumbers]
  rfl

/-! ## The optional parts -/

/-- The optional parts are taken one after the other, then the label, and the text ends. -/
lemma of_first?_fromPre {cs : List Char} {parts : Parts} (h : fromPre.first? cs = some parts) :
    parts.pre = found takePre? cs ∧
      parts.post = found takePost? (left takePre? cs) ∧
      parts.dev = found takeDev? (left takePost? (left takePre? cs)) ∧
      parts.label = found takeLabel? (left takeDev? (left takePost? (left takePre? cs))) ∧
      fromLabel.Matches (left takeDev? (left takePost? (left takePre? cs))) := by
  rw [first?_fromPre, first?_fromPost, first?_fromDev, Option.map_map, Option.map_map] at h
  obtain ⟨last, hlast, rfl⟩ := Option.map_eq_some_iff.1 h
  have hmatches := matches_of_first? hlast
  rw [first?_fromLabel] at hlast
  obtain ⟨-, -, rfl⟩ := Option.map_eq_some_iff.1 hlast
  exact ⟨rfl, rfl, rfl, rfl, hmatches⟩

/-- What follows the release of a version is taken from some end of its text. -/
lemma exists_of_first?_pattern {cs : List Char} {parts : Parts}
    (h : pattern.first? cs = some parts) : ∃ rest last, fromPre.first? rest = some last ∧
      parts = { last with epoch := parts.epoch, release := parts.release } := by
  rw [first?_pattern, first?_fromEpoch] at h
  obtain ⟨parts', hrelease, rfl⟩ := Option.map_eq_some_iff.1 h
  have hdigit : StartsWith Char.isDigit
      (left takeEpoch? (dropFirstIf isVersionLetter (cs.dropWhile isBlank))) := by
    by_contra hdigit
    exact matches_of_first? hrelease (fromRelease_eq_nil hdigit)
  rw [first?_fromRelease hdigit] at hrelease
  obtain ⟨last, hlast, rfl⟩ := Option.map_eq_some_iff.1 hrelease
  exact ⟨_, last, hlast, rfl⟩

end Pep440

end ImageTags
