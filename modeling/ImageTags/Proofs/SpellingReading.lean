import ImageTags.Proofs.VersionParts
import ImageTags.Proofs.VersionSpelling

/-!
# Every spelling of a version is read back

The text of a spelling is read as the version that it spells.  The text is followed from its end.
At every part it is known that the pattern matches what comes after the part, and that alone is why
the part ends where it was meant to: what can follow does not start with a digit, nor with a letter
that would make the name a longer one.  Where a number is left out, the separator of the next part
may be taken with the part before, so the next part must also be found without it (`Detached`).

* `NamedSpelling.takeNamed?_text` — a part with a name is found as it is written.
* `Spelling.first?_upToLabel` — so are all parts in front of the label, whatever label there is.
* `Spelling.first?_text` — the pattern finds the parts that were chosen.
* **`Spelling.read?_text`** — the version is read back.
-/

namespace ImageTags.Pep440

open Text Ways

/-! ## Numbers and names as they are written -/

lemma startsWith_digits (digits : Digits) (rest : List Char) :
    StartsWith Char.isDigit (digits.text ++ rest) := by
  obtain ⟨c, cs, hcs⟩ := List.exists_cons_of_ne_nil digits.ne_nil
  rw [hcs]
  exact startsWith_cons.2 (digits.isDigit c (hcs ▸ List.mem_cons_self))

/-- A number is found as it is written, or found missing. -/
lemma run?_optText (digits : Option Digits) {rest : List Char}
    (hrest : ¬ StartsWith Char.isDigit rest) :
    run? Char.isDigit (optText Digits.text digits ++ rest) = digits.map Digits.text ∧
      (optText Digits.text digits ++ rest).dropWhile Char.isDigit = rest := by
  cases digits with
  | none => exact ⟨run?_of_not_startsWith hrest, dropWhile_eq_self hrest⟩
  | some digits =>
    refine ⟨?_, dropWhile_run digits.isDigit hrest⟩
    exact (run?_of_startsWith (startsWith_digits digits rest)).trans
      (congrArg some (takeWhile_run digits.isDigit hrest))

/-- A letter from `a` to `z` in either case counts as that letter. -/
lemma plainLetter_of_isLower {c : Char} (h : c.toLower.isLower = true) :
    plainLetter c = c.toLower := by
  have hs : c ≠ 'ſ' := by rintro rfl; exact absurd h (by decide)
  have hk : c ≠ '\u212a' := by rintro rfl; exact absurd h (by decide)
  rw [plainLetter, if_neg hs, if_neg hk]

lemma isSeparator_iff_mem {c : Char} : isSeparator c = true ↔ c ∈ separators := by
  simp [isSeparator, separators, or_assoc]

/-- The names that the pattern knows for a part include its labels. -/
structure Knows (names labels : List (List Char)) : Prop where
  wellNamed : WellNamed names
  mem : ∀ label ∈ labels, label ∈ names

lemma knows_pre : Knows phaseNames preLabels := ⟨wellNamed_phaseNames, by decide⟩

lemma knows_post : Knows postNames postLabels := ⟨wellNamed_postNames, by decide⟩

lemma knows_dev : Knows devNames devLabels := ⟨wellNamed_devNames, by decide⟩

namespace NamedSpelling

variable {names labels : List (List Char)}

lemma map_plainLetter_mem (h : Knows names labels) (part : NamedSpelling labels) :
    part.name.map plainLetter ∈ names := by
  have hplain : part.name.map plainLetter = part.name.map Char.toLower := by
    refine List.map_congr_left fun c hc => plainLetter_of_isLower ?_
    have hlower := List.all_eq_true.1 (h.wellNamed.isLower _ (h.mem _ part.name_mem))
    exact hlower _ (List.mem_map_of_mem hc)
  rw [hplain]
  exact h.mem _ part.name_mem

lemma startsWith_name (h : Knows names labels) (part : NamedSpelling labels) (rest : List Char) :
    StartsWith isLetter (part.name ++ rest) := by
  obtain ⟨n, ns, heq, hlower⟩ := h.wellNamed.exists_cons (part.map_plainLetter_mem h)
  cases hname : part.name with
  | nil => simp [hname] at heq
  | cons c cs =>
    rw [hname, List.map_cons] at heq
    refine startsWith_cons.2 ?_
    rw [isLetter, (List.cons.inj heq).1]
    exact hlower

/-- The same part without the separator before its name. -/
def plain (part : NamedSpelling labels) : NamedSpelling labels :=
  { part with before := none, before_mem := by simp }

lemma plain_text_append (part : NamedSpelling labels) (rest : List Char) :
    part.plain.text ++ rest =
      part.name ++ (part.after.toList ++ (optText Digits.text part.digits ++ rest)) := by
  simp [text, plain]

lemma dropSeparator_text (h : Knows names labels) (part : NamedSpelling labels)
    (rest : List Char) : dropSeparator (part.text ++ rest) = part.plain.text ++ rest := by
  cases hbefore : part.before with
  | some c =>
    rw [text, hbefore]
    exact dropSeparator_cons (isSeparator_iff_mem.2 (part.before_mem c hbefore)) _
  | none =>
    rw [text, hbefore]
    refine dropSeparator_eq_self (not_startsWith_isSeparator_of_isLetter ?_)
    simpa using part.startsWith_name h _

/-- What is written after a name does not make it a longer one. -/
lemma not_startsWith_isLeftOver (part : NamedSpelling labels) {rest : List Char}
    (hrest : ¬ StartsWith isLeftOver rest) :
    ¬ StartsWith isLeftOver (part.after.toList ++ (optText Digits.text part.digits ++ rest)) := by
  intro h
  have hletter := startsWith_isLetter_of_isLeftOver h
  cases hafter : part.after with
  | some c =>
    rw [hafter] at hletter
    refine not_startsWith_isSeparator_of_isLetter hletter ?_
    exact startsWith_cons.2 (isSeparator_iff_mem.2 (part.after_mem c hafter))
  | none =>
    cases hdigits : part.digits with
    | some digits =>
      rw [hafter, hdigits] at hletter
      exact not_startsWith_isDigit_of_isLetter hletter (startsWith_digits digits rest)
    | none =>
      rw [hafter, hdigits] at h
      exact hrest h

/-- **A part with a name is found as it is written.**  Where its number is left out, a separator
that belongs to what follows may be taken with it. -/
theorem takeNamed?_text (h : Knows names labels) (part : NamedSpelling labels)
    {ok : List Char → Prop} (hok : Guarded ok) {rest : List Char} (hrest : ok rest)
    (hdropped : part.digits = none → ok (dropSeparator rest)) :
    ∃ rest', (rest' = rest ∨ part.digits = none ∧ rest' = dropSeparator rest) ∧
      takeNamed? names (part.text ++ rest) =
        some ((part.name, part.digits.map Digits.text), rest') := by
  have hdigit : ¬ StartsWith Char.isDigit rest := fun h => hok.digit h hrest
  have hname : takeName? names (dropSeparator (part.text ++ rest)) =
      some (part.name, part.after.toList ++ (optText Digits.text part.digits ++ rest)) := by
    rw [part.dropSeparator_text h, part.plain_text_append]
    exact takeName?_append h.wellNamed (part.map_plainLetter_mem h)
      (part.not_startsWith_isLeftOver fun hleft => hok.letter hleft hrest)
  rw [takeNamed?, hname, Option.map_some]
  cases hafter : part.after with
  | some c =>
    have hdrop : dropSeparator (c :: (optText Digits.text part.digits ++ rest)) =
        optText Digits.text part.digits ++ rest :=
      dropSeparator_cons (isSeparator_iff_mem.2 (part.after_mem c hafter)) _
    obtain ⟨hrun, hrest'⟩ := run?_optText part.digits hdigit
    refine ⟨rest, Or.inl rfl, ?_⟩
    simp only [Option.toList_some, List.singleton_append, hdrop, hrun, hrest']
  | none =>
    cases hdigits : part.digits with
    | some digits =>
      have hdrop : dropSeparator (optText Digits.text (some digits) ++ rest) =
          optText Digits.text (some digits) ++ rest :=
        dropSeparator_eq_self
          (not_startsWith_isSeparator_of_isDigit (startsWith_digits digits rest))
      obtain ⟨hrun, hrest'⟩ := run?_optText (some digits) hdigit
      refine ⟨rest, Or.inl rfl, ?_⟩
      simp only [Option.toList_none, List.nil_append, hdrop, hrun, hrest']
    | none =>
      have hdigit' : ¬ StartsWith Char.isDigit (dropSeparator rest) :=
        fun h => hok.digit h (hdropped hdigits)
      obtain ⟨hrun, hrest'⟩ := run?_optText none hdigit'
      refine ⟨dropSeparator rest, Or.inr ⟨rfl, rfl⟩, ?_⟩
      rw [optText_none, List.nil_append] at hrun hrest'
      simp only [Option.toList_none, List.nil_append, optText_none, hrun, hrest']

lemma exists_takeNamed? (h : Knows names labels) (part : NamedSpelling labels)
    {tail : Ways Parts} (hok : Guarded tail.Matches) {rest : List Char} {parts : Parts}
    (hrest : tail.first? rest = some parts)
    (hdropped : part.digits = none → tail.first? (dropSeparator rest) = some parts) :
    ∃ rest', takeNamed? names (part.text ++ rest) =
        some ((part.name, part.digits.map Digits.text), rest') ∧
      tail.first? rest' = some parts := by
  obtain ⟨rest', hcases, htake⟩ := part.takeNamed?_text h hok (matches_of_first? hrest)
    fun hnone => matches_of_first? (hdropped hnone)
  refine ⟨rest', htake, ?_⟩
  rcases hcases with rfl | ⟨hnone, rfl⟩
  · exact hrest
  · exact hdropped hnone

end NamedSpelling

/-! ## The parts behind the release -/

/-- The same is found in a text with or without the separator at its start. -/
def Detached (tail : Ways Parts) (rest : List Char) (parts : Parts) : Prop :=
  tail.first? rest = some parts ∧ tail.first? (dropSeparator rest) = some parts

lemma startsWith_isLabelChar {segment : List Char} (hne : segment ≠ [])
    (hsegment : ∀ c ∈ segment, isLabelChar c = true) (rest : List Char) :
    StartsWith isLabelChar (segment ++ rest) := by
  obtain ⟨c, cs, rfl⟩ := List.exists_cons_of_ne_nil hne
  exact startsWith_cons.2 (hsegment c List.mem_cons_self)

lemma isLabelChar_of_isAlphanum {c : Char} (h : c.isAlphanum = true) : isLabelChar c = true := by
  rw [isLabelChar, Bool.or_eq_true]
  rcases isAlphanum_iff.1 h with h | h | h
  · exact Or.inl (isLetter_iff.2 (Or.inl h))
  · exact Or.inl (isLetter_iff.2 (Or.inr (Or.inl h)))
  · exact Or.inr h

lemma not_goesOn_of_allBlank {blanks : List Char} (h : allBlank blanks = true) :
    ¬ GoesOn isSeparator isLabelChar blanks :=
  fun hgoes => not_matches_toEnd_of_goesOn hgoes (matches_toEnd.2 h)

/-- Segments with separators between them are found as they are written. -/
lemma takeLabel?_segments {segment : List Char} {others : List (Char × List Char)}
    (hne : segment ≠ []) (hsegment : ∀ c ∈ segment, isLabelChar c = true)
    (hothers : ∀ x ∈ others, isSeparator x.1 = true ∧ x.2 ≠ [] ∧ ∀ c ∈ x.2, isLabelChar c = true)
    {blanks : List Char} (h : allBlank blanks = true) :
    takeLabel? ('+' :: (segment ++ others.flatMap fun x => x.1 :: x.2) ++ blanks) =
      some (segment ++ others.flatMap fun x => x.1 :: x.2, blanks) := by
  have hstart : StartsWith isLabelChar
      (segment ++ (others.flatMap fun x => x.1 :: x.2) ++ blanks) := by
    rw [List.append_assoc]
    exact startsWith_isLabelChar hne hsegment _
  rw [List.cons_append, takeLabel?, if_pos hstart]
  exact congrArg some (stretch_runs hsegment hothers (not_goesOn_of_allBlank h))

/-- A local label is found as it is written. -/
lemma takeLabel?_text (label : LabelSpelling) {blanks : List Char} (h : allBlank blanks = true) :
    takeLabel? ('+' :: label.text ++ blanks) = some (label.text, blanks) := by
  refine takeLabel?_segments label.segment_ne_nil ?_ ?_ h
  · intro c hc
    exact isLabelChar_of_isAlphanum (label.segment_isAlphanum c hc)
  · intro x hx
    obtain ⟨hsep, hne, halphanum⟩ := label.others_spelled x hx
    exact ⟨isSeparator_iff_mem.2 hsep, hne, fun c hc => isLabelChar_of_isAlphanum (halphanum c hc)⟩

/-- A label that is found as it is written is all there is of a version in front of blanks. -/
lemma detached_fromLabel {label : Option (List Char)} {blanks : List Char}
    (h : allBlank blanks = true)
    (hlabel : ∀ text ∈ label, takeLabel? ('+' :: text ++ blanks) = some (text, blanks)) :
    Detached fromLabel (optText ('+' :: ·) label ++ blanks) { label } := by
  have hend : toEnd.first? blanks = some () := by rw [first?_toEnd, if_pos h]
  cases label with
  | some text =>
    have htake := hlabel text rfl
    have hfirst : fromLabel.first? ('+' :: text ++ blanks) = some { label := some text } := by
      rw [first?_fromLabel, left_of_some htake, found_of_some htake, hend]
      rfl
    exact ⟨hfirst, hfirst⟩
  | none =>
    have hfirst : fromLabel.first? blanks = some {} :=
      takenBy_label.first?_missing (fun label _ => ({ label } : Parts)) hend
    refine ⟨hfirst, ?_⟩
    -- no blank is a separator
    have hdrop : dropSeparator blanks = blanks := by
      refine dropSeparator_eq_self fun hsep => ?_
      obtain ⟨c, cs, rfl, hc⟩ := startsWith_iff.1 hsep
      have hblank := List.all_eq_true.1 h c List.mem_cons_self
      simp [(of_isSeparator hc).2.2.1] at hblank
    exact (congrArg fromLabel.first? hdrop).trans hfirst

lemma first?_fromDev_text (dev : Option (NamedSpelling devLabels)) {rest : List Char}
    {parts : Parts} (h : Detached fromLabel rest parts) :
    fromDev.first? (optText NamedSpelling.text dev ++ rest) =
      some { parts with dev := dev.map fun part => part.digits.map Digits.text } := by
  cases dev with
  | none =>
    exact takenBy_dev.first?_missing (fun dev (parts : Parts) => ({ parts with dev } : Parts)) h.1
  | some part =>
    obtain ⟨rest', htake, hrest'⟩ := part.exists_takeNamed? knows_dev
      lettered_fromLabel.guarded h.1 fun _ => h.2
    have htake' : takeDev? (part.text ++ rest) = some (part.digits.map Digits.text, rest') := by
      rw [takeDev?, takeDigits?, htake, Option.map_some]
    rw [optText_some, first?_fromDev, left_of_some htake', found_of_some htake', hrest']
    rfl

/-- A separator in front of the development release may be missing. -/
lemma detached_fromDev (dev : Option (NamedSpelling devLabels)) {rest : List Char} {parts : Parts}
    (h : Detached fromLabel rest parts) :
    Detached fromDev (optText NamedSpelling.text dev ++ rest)
      { parts with dev := dev.map fun part => part.digits.map Digits.text } := by
  refine ⟨first?_fromDev_text dev h, ?_⟩
  cases dev with
  | none =>
    exact takenBy_dev.first?_missing (fun dev (parts : Parts) => ({ parts with dev } : Parts)) h.2
  | some part =>
    rw [optText_some, part.dropSeparator_text knows_dev]
    exact first?_fromDev_text (some part.plain) h

/-- A part with a name is not a bare post-release. -/
lemma takeBarePost?_named (part : NamedSpelling postLabels) (rest : List Char) :
    takeBarePost? (part.text ++ rest) = none := by
  refine takeBarePost?_of_letter ?_
  rw [part.dropSeparator_text knows_post, part.plain_text_append]
  exact part.startsWith_name knows_post _

lemma first?_fromPost_text (post : Option PostSpelling) {rest : List Char} {parts : Parts}
    (h : Detached fromDev rest parts) :
    fromPost.first? (optText PostSpelling.text post ++ rest) =
      some { parts with post := post.map fun post => post.digits.map Digits.text } := by
  cases post with
  | none =>
    exact takenBy_post.first?_missing (fun post (parts : Parts) => ({ parts with post } : Parts))
      h.1
  | some post =>
    rw [optText_some]
    cases post with
    | bare digits =>
      have hdigit : ¬ StartsWith Char.isDigit rest :=
        fun hdigit => lettered_fromDev.digit hdigit (matches_of_first? h.1)
      have htake : takePost? ('-' :: (digits.text ++ rest)) = some (some digits.text, rest) := by
        have hbare := takeBarePost?_eq_some_iff.2 ⟨_, rfl, startsWith_digits digits rest, rfl, rfl⟩
        rw [takeWhile_run digits.isDigit hdigit, dropWhile_run digits.isDigit hdigit] at hbare
        rw [takePost?, hbare, Option.some_or]
      rw [PostSpelling.text, List.cons_append, first?_fromPost, left_of_some htake,
        found_of_some htake, h.1]
      rfl
    | named part =>
      obtain ⟨rest', htake, hrest'⟩ := part.exists_takeNamed? knows_post
        lettered_fromDev.guarded h.1 fun _ => h.2
      have htake' : takePost? (part.text ++ rest) = some (part.digits.map Digits.text, rest') := by
        rw [takePost?, takeBarePost?_named, Option.none_or, takeDigits?, htake, Option.map_some]
      rw [PostSpelling.text, first?_fromPost, left_of_some htake', found_of_some htake', hrest']
      rfl

/-- A separator in front of a post-release may be missing unless it is a bare one. -/
lemma detached_fromPost (post : Option PostSpelling) (hbare : ∀ digits, post ≠ some (.bare digits))
    {rest : List Char} {parts : Parts} (h : Detached fromDev rest parts) :
    Detached fromPost (optText PostSpelling.text post ++ rest)
      { parts with post := post.map fun post => post.digits.map Digits.text } := by
  refine ⟨first?_fromPost_text post h, ?_⟩
  cases post with
  | none =>
    exact takenBy_post.first?_missing (fun post (parts : Parts) => ({ parts with post } : Parts))
      h.2
  | some post =>
    cases post with
    | bare digits => exact absurd rfl (hbare digits)
    | named part =>
      rw [optText_some, PostSpelling.text, part.dropSeparator_text knows_post]
      exact first?_fromPost_text (some (.named part.plain)) h

lemma first?_fromPre_text (pre : Option (NamedSpelling preLabels)) {rest : List Char}
    {parts : Parts} (h : fromPost.first? rest = some parts)
    (hdropped : ∀ part ∈ pre, part.digits = none →
      fromPost.first? (dropSeparator rest) = some parts) :
    fromPre.first? (optText NamedSpelling.text pre ++ rest) =
      some { parts with pre := pre.map fun part => (part.name, part.digits.map Digits.text) } := by
  cases pre with
  | none =>
    exact takenBy_pre.first?_missing (fun pre (parts : Parts) => ({ parts with pre } : Parts)) h
  | some part =>
    obtain ⟨rest', htake, hrest'⟩ := part.exists_takeNamed? knows_pre
      guarded_fromPost h (hdropped part rfl)
    have htake' : takePre? (part.text ++ rest) =
        some ((part.name, part.digits.map Digits.text), rest') := htake
    rw [optText_some, first?_fromPre, left_of_some htake', found_of_some htake', hrest']
    rfl

/-- The optional parts are found as they are written. -/
lemma first?_fromPre_texts {pre : Option (NamedSpelling preLabels)} {post : Option PostSpelling}
    (dev : Option (NamedSpelling devLabels))
    (hclear : ∀ part ∈ pre, part.digits = none → ∀ digits, post ≠ some (.bare digits))
    {rest : List Char} {parts : Parts} (h : Detached fromLabel rest parts) :
    fromPre.first? (optText NamedSpelling.text pre ++ (optText PostSpelling.text post ++
      (optText NamedSpelling.text dev ++ rest))) = some { parts with
        pre := pre.map fun part => (part.name, part.digits.map Digits.text)
        post := post.map fun post => post.digits.map Digits.text
        dev := dev.map fun part => part.digits.map Digits.text } := by
  have hdev := detached_fromDev dev h
  refine first?_fromPre_text pre (first?_fromPost_text post hdev) fun part hpart hnone => ?_
  exact (detached_fromPost post (hclear part hpart hnone) hdev).2

/-! ## The release and what stands in front of it -/

lemma runs_texts (major : Digits) (others : List Digits) :
    Runs ((major :: others).map Digits.text) := by
  refine ⟨by simp, fun run hrun => ?_⟩
  obtain ⟨digits, -, rfl⟩ := List.mem_map.1 hrun
  exact ⟨digits.ne_nil, digits.isDigit⟩

/-- The epoch and the release are found as they are written. -/
lemma first?_fromEpoch_texts (epoch : Option Digits) (major : Digits) (others : List Digits)
    {rest : List Char} {parts : Parts} (h : fromPre.first? rest = some parts) :
    fromEpoch.first? (optText (fun digits => digits.text ++ ['!']) epoch ++
      (joinWith ['.'] ((major :: others).map Digits.text) ++ rest)) = some { parts with
        epoch := epoch.map Digits.text
        release := joinWith ['.'] ((major :: others).map Digits.text) } := by
  have hmatches := matches_of_first? h
  have hgoes : ¬ GoesOn (· = '.') Char.isDigit rest :=
    fun hgoes => not_matches_fromPre_of_goesOn hgoes hmatches
  cases epoch with
  | none =>
    have hmark : ¬ StartsWith (· = '!') rest := by
      intro hmark
      obtain ⟨c, rest, rfl, hc⟩ := startsWith_iff.1 hmark
      rw [of_decide_eq_true hc] at hmatches
      exact not_matches_fromPre_mark rest hmatches
    rw [optText_none, List.nil_append, first?_fromEpoch_joinWith (runs_texts major others) hgoes
      hmark, h]
    rfl
  | some digits =>
    have htake : takeEpoch? (digits.text ++
        '!' :: (joinWith ['.'] ((major :: others).map Digits.text) ++ rest)) =
        some (digits.text, joinWith ['.'] ((major :: others).map Digits.text) ++ rest) := by
      have hstop : ¬ StartsWith Char.isDigit
          ('!' :: (joinWith ['.'] ((major :: others).map Digits.text) ++ rest)) := by simp
      exact takeEpoch?_eq_some_iff.2 ⟨startsWith_digits digits _,
        (takeWhile_run digits.isDigit hstop).symm, dropWhile_run digits.isDigit hstop⟩
    rw [optText_some, List.append_assoc, List.singleton_append, first?_fromEpoch,
      left_of_some htake, found_of_some htake,
      first?_fromRelease_joinWith (runs_texts major others) hgoes, h]
    rfl

/-- A version is found behind blanks and a letter. -/
lemma first?_pattern_text {blanks : List Char} (hblanks : allBlank blanks = true)
    {letter : Option Char} (hletter : ∀ c ∈ letter, isVersionLetter c = true) {rest : List Char}
    {parts : Parts} (h : fromEpoch.first? rest = some parts) :
    pattern.first? (blanks ++ (letter.toList ++ rest)) = some parts := by
  have hdigit := startsWith_of_fromEpoch h
  obtain ⟨d, rest, rfl, hd⟩ := startsWith_iff.1 hdigit
  rw [first?_pattern]
  cases letter with
  | none =>
    have hv : ¬ isVersionLetter d = true := by
      intro hv
      simp [not_isDigit_of_isLetter (isLetter_of_isVersionLetter hv)] at hd
    rw [Option.toList_none, List.nil_append, dropWhile_run (List.all_eq_true.1 hblanks)
      (by simp [not_isBlank_of_isDigit hd]), dropFirstIf, if_neg hv, h]
  | some c =>
    have hc := hletter c rfl
    have hblank := not_isBlank_of_isLetter (isLetter_of_isVersionLetter hc)
    rw [Option.toList_some, List.singleton_append,
      dropWhile_run (List.all_eq_true.1 hblanks) (by simp [hblank]), dropFirstIf, if_pos hc, h]

/-! ## The whole text -/

namespace Spelling

/-- What is written for the parts of a version. -/
def parts (s : Spelling) : Parts where
  epoch := s.epoch.map Digits.text
  release := s.release
  pre := s.pre.map fun part => (part.name, part.digits.map Digits.text)
  post := s.post.map fun post => post.digits.map Digits.text
  dev := s.dev.map fun part => part.digits.map Digits.text
  label := s.label.map LabelSpelling.text

/-- The parts in front of the label are found as they were chosen, whatever label follows them. -/
lemma first?_upToLabel (s : Spelling) {rest : List Char} {label : Option (List Char)}
    (h : Detached fromLabel rest { label }) :
    pattern.first? (s.upToLabel rest) = some { s.parts with label } := by
  have hletter : ∀ c ∈ s.letter, isVersionLetter c = true := by
    intro c hc
    rcases s.letter_mem c hc with rfl | rfl <;> decide
  exact first?_pattern_text s.blanks_allBlank hletter
    (first?_fromEpoch_texts s.epoch s.major s.others (first?_fromPre_texts s.dev s.pre_clear h))

/-- **The pattern finds the parts that were chosen.** -/
theorem first?_text (s : Spelling) : pattern.first? s.text = some s.parts := by
  have htake : ∀ text ∈ s.label.map LabelSpelling.text,
      takeLabel? ('+' :: text ++ s.trailing) = some (text, s.trailing) := by
    intro text htext
    obtain ⟨label, -, rfl⟩ := Option.map_eq_some_iff.1 htext
    exact takeLabel?_text label s.trailing_allBlank
  have hlabel : optText (fun label : LabelSpelling => '+' :: label.text) s.label =
      optText ('+' :: ·) (s.label.map LabelSpelling.text) := by
    rw [optText, optText, Option.map_map]
    rfl
  rw [text_eq_upToLabel, hlabel]
  exact s.first?_upToLabel (detached_fromLabel s.trailing_allBlank htake)

end Spelling

/-! ## The version that is read -/

lemma readWord?_text {digits : Digits} (h : digits.value ≤ Numeral.maxWord) :
    Numeral.readWord? digits.text = some digits.value :=
  Numeral.readWord?_eq_some_iff.2 ⟨digits.ne_nil, digits.isDigit, h, rfl⟩

lemma number_text {digits : Option Digits} (h : optValue digits ≤ Numeral.maxWord) :
    number (digits.map Digits.text) = optValue digits := by
  cases digits with
  | none => rfl
  | some digits =>
    rw [number, Option.map_some, Option.bind_some, readWord?_text h]
    rfl

lemma mapM_readWord?_text {all : List Digits} (h : ∀ digits ∈ all, digits.value ≤ Numeral.maxWord) :
    (all.map Digits.text).mapM Numeral.readWord? = some (all.map Digits.value) := by
  refine Numeral.mapM_readWord?_eq_some_iff.2 ⟨fun run hrun => ?_, ?_⟩
  · obtain ⟨digits, hdigits, rfl⟩ := List.mem_map.1 hrun
    exact ⟨digits.ne_nil, digits.isDigit, h digits hdigits⟩
  · rw [List.map_map]
    rfl

/-- A phase is known by each of its names. -/
lemma ofName_eq {name : List Char} {phase : Phase}
    (h : name.map Char.toLower ∈ phaseLabels phase) : Phase.ofName name = phase := by
  rw [Phase.ofName]
  generalize name.map Char.toLower = lower at h
  cases phase with
  | alpha =>
    simp only [phaseLabels, List.mem_cons, List.not_mem_nil, or_false] at h
    rcases h with rfl | rfl <;> rfl
  | beta =>
    simp only [phaseLabels, List.mem_cons, List.not_mem_nil, or_false] at h
    rcases h with rfl | rfl <;> rfl
  | candidate =>
    simp only [phaseLabels, List.mem_cons, List.not_mem_nil, or_false] at h
    rcases h with rfl | rfl | rfl | rfl <;> rfl

/-- The names of a pre-release as it is written say which phase it is, and its digits which
number. -/
lemma map_ofName_eq {part : Option (NamedSpelling preLabels)} {pre : Option (Phase × Nat)}
    (h : Option.Rel (fun part x => part.name.map Char.toLower ∈ phaseLabels x.1 ∧
      optValue part.digits = x.2) part pre) (hmax : ∀ x ∈ pre, x.2 ≤ Numeral.maxWord) :
    ((part.map fun part => (part.name, part.digits.map Digits.text)).map
      fun (name, digits) => (Phase.ofName name, number digits)) = pre := by
  cases h with
  | none => rfl
  | some h =>
    obtain ⟨hname, hdigits⟩ := h
    simp only [Option.map_some, ofName_eq hname, number_text (hdigits ▸ hmax _ rfl), hdigits]

/-- The number of a part that may be missing. -/
lemma map_number_eq {α : Type} {part : Option α} {digits : α → Option Digits} {n : Option Nat}
    (h : part.map (fun a => optValue (digits a)) = n) (hmax : ∀ m ∈ n, m ≤ Numeral.maxWord) :
    (part.map fun a => (digits a).map Digits.text).map number = n := by
  subst h
  cases part with
  | none => rfl
  | some a => exact congrArg some (number_text (hmax _ rfl))

/-! ## The segments of the local label -/

lemma segments_append {segment : List Char} (hsegment : ∀ c ∈ segment, isSeparator c = false)
    {c : Char} (hc : isSeparator c = true) (rest : List Char) :
    segments (segment ++ c :: rest) = segment :: segments rest := by
  induction segment with
  | nil => rw [List.nil_append, segments, if_pos hc]
  | cons d segment ih =>
    obtain ⟨hd, hsegment⟩ := List.forall_mem_cons.1 hsegment
    rw [List.cons_append, segments, if_neg (by simp [hd]), ih hsegment]

lemma segments_eq_self {segment : List Char} (hsegment : ∀ c ∈ segment, isSeparator c = false) :
    segments segment = [segment] := by
  induction segment with
  | nil => rfl
  | cons d segment ih =>
    obtain ⟨hd, hsegment⟩ := List.forall_mem_cons.1 hsegment
    rw [segments, if_neg (by simp [hd]), ih hsegment]

lemma not_isSeparator_of_isLabelChar {c : Char} (h : isLabelChar c = true) :
    isSeparator c = false := by
  rcases (Bool.or_eq_true _ _).mp h with h | h
  · exact not_isSeparator_of_isLetter h
  · exact not_isSeparator_of_isDigit h

/-- Lower case keeps the characters of local labels. -/
lemma isLabelChar_toLower {c : Char} (h : isLabelChar c = true) :
    isLabelChar c.toLower = true := by
  by_cases hupper : c.isUpper = true
  · have hrange := isUpper_iff.1 hupper
    have hlower : c.toLower.isLower = true := by
      rw [isLower_iff, toNat_toLower hupper]
      omega
    exact (Bool.or_eq_true _ _).mpr (Or.inl (isLetter_iff.2 (Or.inr (Or.inl hlower))))
  · rwa [toLower_of_not_isUpper hupper]

lemma toLower_of_isSeparator {c : Char} (h : isSeparator c = true) : c.toLower = c := by
  rcases isSeparator_iff.1 h with rfl | rfl | rfl <;> rfl

lemma segments_map_toLower {segment : List Char} (hsegment : ∀ c ∈ segment, isLabelChar c = true)
    {others : List (Char × List Char)}
    (hothers : ∀ x ∈ others, isSeparator x.1 = true ∧ ∀ c ∈ x.2, isLabelChar c = true) :
    segments ((segment ++ others.flatMap fun x => x.1 :: x.2).map Char.toLower) =
      (segment :: others.map Prod.snd).map (·.map Char.toLower) := by
  have hlower {segment : List Char} (hsegment : ∀ c ∈ segment, isLabelChar c = true) :
      ∀ c ∈ segment.map Char.toLower, isSeparator c = false := by
    intro c hc
    obtain ⟨d, hd, rfl⟩ := List.mem_map.1 hc
    exact not_isSeparator_of_isLabelChar (isLabelChar_toLower (hsegment d hd))
  induction others generalizing segment with
  | nil =>
    rw [List.flatMap_nil, List.append_nil, segments_eq_self (hlower hsegment)]
    rfl
  | cons x others ih =>
    obtain ⟨⟨hsep, hx⟩, hothers⟩ := List.forall_mem_cons.1 hothers
    rw [List.flatMap_cons, List.cons_append, List.map_append, List.map_cons,
      toLower_of_isSeparator hsep, segments_append (hlower hsegment) hsep, ih hx hothers]
    rfl

lemma LabelSpelling.segments_text (label : LabelSpelling) :
    Pep440.segments (label.text.map Char.toLower) = label.segments := by
  refine segments_map_toLower ?_ fun x hx => ?_
  · intro c hc
    exact isLabelChar_of_isAlphanum (label.segment_isAlphanum c hc)
  · obtain ⟨hsep, -, halphanum⟩ := label.others_spelled x hx
    exact ⟨isSeparator_iff_mem.2 hsep, fun c hc => isLabelChar_of_isAlphanum (halphanum c hc)⟩

namespace Spelling

variable {s : Spelling} {v : Pep440}

/-- The version that is read from the parts of a spelling, with any label. -/
lemma version?_parts (hs : s.Spells v) (hv : v.InRange) (label : Option (List Char)) :
    Parts.version? { s.parts with label } = some { v with
      label := (label.map fun label => segments (label.map Char.toLower)).getD [] } := by
  have hmajor : ∀ digits ∈ s.major :: s.others, digits.value ≤ Numeral.maxWord := by
    refine List.forall_mem_cons.2 ⟨hs.major ▸ hv.major, fun digits hdigits => ?_⟩
    exact hv.others _ (hs.others ▸ List.mem_map_of_mem hdigits)
  have hnumbers : ((s.major :: s.others).map Digits.text).mapM Numeral.readWord? =
      some (v.major :: v.others) := by
    rw [mapM_readWord?_text hmajor, List.map_cons, hs.major, hs.others]
  have hepoch : number s.parts.epoch = v.epoch :=
    (number_text (hs.epoch ▸ hv.epoch)).trans hs.epoch
  rw [version?_eq_some (runs_texts s.major s.others) rfl hnumbers, hepoch]
  simp only [parts, map_ofName_eq hs.pre hv.pre, map_number_eq hs.post hv.post,
    map_number_eq hs.dev hv.dev]

/-- **Every spelling of a version is read as that version.** -/
theorem read?_text (hs : s.Spells v) (hv : v.InRange) : read? s.text = some v := by
  have hlabel : (s.parts.label.map fun label => segments (label.map Char.toLower)).getD [] =
      v.label := by
    rw [← hs.label, parts, Option.map_map]
    have hsegments : (fun label => segments (label.map Char.toLower)) ∘ LabelSpelling.text =
        LabelSpelling.segments := funext LabelSpelling.segments_text
    rw [hsegments]
  have hversion := version?_parts hs hv s.parts.label
  rw [hlabel] at hversion
  rw [read?, s.first?_text, Option.bind_some]
  exact hversion

/-- A spelling with most of what may vary: blanks, the letter, an epoch that is 0, zeros in front,
a number left out before a separator of the next part, and names that start like shorter ones. -/
theorem read?_text_of_preview : ∃ s : Spelling,
    s.text = "\u2003V0!01.002-PreView_.rEv.DEV-03+Ab-0_c\n".toList ∧
      read? s.text = some
        ⟨0, 1, [2], some (.candidate, 0), some 0, some 3, [['a', 'b'], ['0'], ['c']]⟩ := by
  let zero : Digits := ⟨['0'], by simp, by simp⟩
  let one : Digits := ⟨['0', '1'], by simp, by simp⟩
  let two : Digits := ⟨['0', '0', '2'], by simp, by simp⟩
  let three : Digits := ⟨['0', '3'], by simp, by simp⟩
  let pre : NamedSpelling preLabels :=
    ⟨some '-', ['P', 'r', 'e', 'V', 'i', 'e', 'w'], some '_', none, by simp [separators],
      by decide, by simp [separators]⟩
  let post : NamedSpelling postLabels :=
    ⟨some '.', ['r', 'E', 'v'], none, none, by simp [separators], by decide, by simp⟩
  let dev : NamedSpelling devLabels :=
    ⟨some '.', ['D', 'E', 'V'], some '-', some three, by simp [separators], by decide,
      by simp [separators]⟩
  let label : LabelSpelling :=
    ⟨['A', 'b'], [('-', ['0']), ('_', ['c'])], by simp, by simp, by simp [separators]⟩
  let s : Spelling :=
    ⟨['\u2003'], some 'V', some zero, one, [two], some pre, some (.named post), some dev,
      some label, ['\n'], by decide, by simp, by simp, by decide⟩
  have hs : s.Spells
      ⟨0, 1, [2], some (.candidate, 0), some 0, some 3, [['a', 'b'], ['0'], ['c']]⟩ := by
    refine ⟨by decide, by decide, by decide, ?_, by decide, by decide, by decide⟩
    exact Option.Rel.some ⟨by decide, by decide⟩
  refine ⟨s, by decide, read?_text hs ?_⟩
  exact ⟨by decide, by decide, by decide, by decide, by decide, by decide⟩

end Spelling

end ImageTags.Pep440
