import Mathlib.Data.List.TakeWhile
import ImageTags.Proofs.VersionNames

/-!
# How the pattern of versions splits a text

The pattern of PEP 440 versions has many ways to split a text: names that start alike, separators
that belong to the part before or after them, a hyphen and digits that can be the number of a
pre-release or a whole post-release.  None of this needs a search: each part can be taken as it
comes, as much as there is of it, and what is left decides.

The parts are followed from the last one to the first.  Each step needs two facts about what comes
after a part: what it may start with, and that it cannot start where the part itself does.

* `takePre?`, `takePost?`, `takeDev?`, `takeLabel?` — the optional parts, taken as they come.
* **`first?_fromPre`**, **`first?_fromPost`**, **`first?_fromDev`**, **`first?_fromLabel`** — the
  pattern takes the parts as they come.
* **`first?_fromEpoch`**, **`first?_fromRelease`** — so it does with the epoch and the release.
* **`first?_pattern`** — where the epoch and the release are looked for.
-/

namespace ImageTags.Pep440

open Text Ways

/-! ## The end of a text and the local label -/

lemma allBlank_iff_dropWhile {cs : List Char} :
    allBlank cs = true ↔ cs.dropWhile isBlank = [] := by
  rw [allBlank, List.all_eq_true, List.dropWhile_eq_nil_iff]

lemma first?_toEnd (cs : List Char) :
    toEnd.first? cs = if allBlank cs then some () else none := by
  have hbest : Best (many isBlank) (fun _ rest => atEnd.Matches rest) cs
      (cs.takeWhile isBlank) (cs.dropWhile isBlank) := by
    refine best_many (fun _ rest hrest => ?_) cs
    obtain ⟨c, rest, rfl, -⟩ := startsWith_iff.1 hrest
    exact fun h => h rfl
  rw [toEnd, hbest.first?_bind]
  by_cases h : allBlank cs = true
  · rw [if_pos h, allBlank_iff_dropWhile.1 h]
    rfl
  · obtain ⟨c, rest, hrest⟩ := List.exists_cons_of_ne_nil (mt allBlank_iff_dropWhile.2 h)
    rw [if_neg h, hrest]
    rfl

lemma matches_toEnd {cs : List Char} : toEnd.Matches cs ↔ allBlank cs = true := by
  rw [← not_iff_not, ← first?_eq_none_iff, first?_toEnd]
  simp

/-- A local label, taken as it comes: after a plus sign as many segments as there are. -/
def takeLabel? : List Char → Option (List Char × List Char)
  | '+' :: cs =>
      if StartsWith isLabelChar cs then some (stretch isSeparator isLabelChar cs) else none
  | _ => none

lemma not_isLabelChar_of_isSeparator {c : Char} (h : isSeparator c = true) :
    isLabelChar c = false := by
  rcases isSeparator_iff.1 h with rfl | rfl | rfl <;> decide

lemma not_isBlank_of_isLabelChar {c : Char} (h : isLabelChar c = true) : isBlank c = false := by
  rcases (Bool.or_eq_true _ _).mp h with h | h
  · exact not_isBlank_of_isLetter h
  · exact not_isBlank_of_isDigit h

/-- A text does not end where a stretch of segments can go on. -/
lemma not_matches_toEnd_of_goesOn {cs : List Char} (h : GoesOn isSeparator isLabelChar cs) :
    ¬ toEnd.Matches cs := by
  rw [matches_toEnd]
  cases cs with
  | nil => exact absurd h id
  | cons c cs =>
    have hc : isBlank c = false := by
      rcases h with h | ⟨h, -⟩
      · exact not_isBlank_of_isLabelChar h
      · exact (of_isSeparator h).2.2.1
    simp [allBlank, hc]

lemma takenBy_label : TakenBy (do let _ ← one (· = '+'); separated isSeparator isLabelChar)
    takeLabel? toEnd.Matches where
  missing {cs} h := by
    unfold takeLabel? at h
    split at h
    · next cs =>
      by_cases hcs : StartsWith isLabelChar cs
      · rw [if_pos hcs] at h
        simp at h
      · rw [bind_apply, one_cons, if_pos (by decide), List.flatMap_singleton,
          separated_eq_nil hcs]
    · next hplus =>
      exact bind_eq_nil (one_char_eq_nil hplus)
  best {cs text rest} h := by
    unfold takeLabel? at h
    split at h
    · next cs =>
      by_cases hcs : StartsWith isLabelChar cs
      · rw [if_pos hcs, Option.some.injEq] at h
        have hbest := best_separated (s := isSeparator) (p := isLabelChar)
          (fun _ => not_isLabelChar_of_isSeparator)
          (fun (_ : List Char) _ hrest => not_matches_toEnd_of_goesOn hrest) hcs
        rw [h] at hbest
        exact Best.bind (best_one (by decide) cs) hbest
      · rw [if_neg hcs] at h
        simp at h
    · simp at h
  needed {cs text rest} h := by
    unfold takeLabel? at h
    split at h
    · rw [matches_toEnd]
      simp [allBlank, show isBlank '+' = false from by decide]
    · simp at h

/-- **The local label is taken as it comes.** -/
theorem first?_fromLabel (cs : List Char) :
    fromLabel.first? cs = (toEnd.first? (left takeLabel? cs)).map fun _ =>
      { label := found takeLabel? cs } :=
  takenBy_label.first?_then (fun label _ => ({ label } : Parts)) cs

lemma not_matches_fromLabel {c : Char} {cs : List Char} (hplus : c ≠ '+')
    (hblank : isBlank c = false) : ¬ fromLabel.Matches (c :: cs) := by
  have htake : takeLabel? (c :: cs) = none := by
    unfold takeLabel?
    split
    · next heq => exact absurd (List.cons.inj heq).1 hplus
    · rfl
  rw [← first?_eq_none_iff, first?_fromLabel, left_of_none htake, first?_toEnd]
  simp [allBlank, hblank]

lemma not_matches_fromLabel_of_letter {cs : List Char} (h : StartsWith isLetter cs) :
    ¬ fromLabel.Matches cs := by
  obtain ⟨c, cs, rfl, hletter⟩ := startsWith_iff.1 h
  refine not_matches_fromLabel ?_ (not_isBlank_of_isLetter hletter)
  rintro rfl
  exact absurd hletter (by decide)

lemma not_matches_fromLabel_of_separator {cs : List Char} (h : StartsWith isSeparator cs) :
    ¬ fromLabel.Matches cs := by
  obtain ⟨c, cs, rfl, hsep⟩ := startsWith_iff.1 h
  exact not_matches_fromLabel (of_isSeparator hsep).2.2.2 (of_isSeparator hsep).2.2.1

/-! ## The development release -/

lemma lettered_fromLabel : Lettered fromLabel.Matches where
  digit {cs} h := by
    obtain ⟨c, cs, rfl, hdigit⟩ := startsWith_iff.1 h
    refine not_matches_fromLabel ?_ (not_isBlank_of_isDigit hdigit)
    rintro rfl
    simp at hdigit
  letter h := not_matches_fromLabel_of_letter (startsWith_isLetter_of_isLeftOver h)
  separator hc h := absurd h (not_matches_fromLabel_of_separator (startsWith_cons.2 hc))

/-- A part with a name starts with a separator or a letter. -/
lemma startsWith_of_takeNamed? {names : List (List Char)} (hnames : WellNamed names)
    {cs : List Char} (h : takeNamed? names cs ≠ none) :
    StartsWith isSeparator cs ∨ StartsWith isLetter cs := by
  by_cases hsep : StartsWith isSeparator cs
  · exact Or.inl hsep
  · refine Or.inr (Classical.not_not.1 fun hletter => h (takeNamed?_eq_none hnames ?_))
    rwa [dropSeparator_eq_self hsep]

/-- No text that starts with a named part can be the end of a version. -/
lemma not_matches_fromLabel_of_named {names : List (List Char)} (hnames : WellNamed names)
    {cs : List Char} (h : takeNamed? names cs ≠ none) : ¬ fromLabel.Matches cs := by
  rcases startsWith_of_takeNamed? hnames h with hstart | hstart
  · exact not_matches_fromLabel_of_separator hstart
  · exact not_matches_fromLabel_of_letter hstart

/-- The development release of a version, taken as it comes. -/
def takeDev? : List Char → Option (Option (List Char) × List Char) := takeDigits? devNames

lemma takenBy_dev : TakenBy namedDev takeDev? fromLabel.Matches :=
  takenBy_digits wellNamed_devNames lettered_fromLabel.guarded
    (not_matches_fromLabel_of_named wellNamed_devNames)

/-- **The development release is taken as it comes.** -/
theorem first?_fromDev (cs : List Char) :
    fromDev.first? cs = (fromLabel.first? (left takeDev? cs)).map fun parts =>
      { parts with dev := found takeDev? cs } :=
  takenBy_dev.first?_then (fun dev (parts : Parts) => ({ parts with dev } : Parts)) cs

lemma matches_fromDev (cs : List Char) :
    fromDev.Matches cs ↔ fromLabel.Matches (left (takeNamed? devNames) cs) := by
  rw [← left_takeDigits?]
  exact takenBy_dev.matches_then (fun dev (parts : Parts) => ({ parts with dev } : Parts)) cs

lemma lettered_fromDev : Lettered fromDev.Matches := by
  have h := lettered_fromLabel.named wellNamed_devNames (by decide)
  simpa only [← matches_fromDev] using h

lemma not_matches_fromDev_of_named {names : List (List Char)} (hnames : WellNamed names)
    (hclear : ∀ name ∈ names, ∀ name' ∈ devNames, Outdoes name name') {cs : List Char}
    (h : takeNamed? names cs ≠ none) : ¬ fromDev.Matches cs := by
  rw [matches_fromDev]
  exact lettered_fromLabel.not_left_named hclear h (not_matches_fromLabel_of_named hnames h)

/-! ## The post-release -/

/-- A post-release after a mere hyphen, taken as it comes. -/
def takeBarePost? : List Char → Option (Option (List Char) × List Char)
  | '-' :: cs =>
    if StartsWith Char.isDigit cs then
      some (some (cs.takeWhile Char.isDigit), cs.dropWhile Char.isDigit)
    else none
  | _ => none

/-- The post-release of a version, taken as it comes. -/
def takePost? (cs : List Char) : Option (Option (List Char) × List Char) :=
  (takeBarePost? cs).or (takeDigits? postNames cs)

lemma takeBarePost?_eq_some_iff {cs rest : List Char} {digits : Option (List Char)} :
    takeBarePost? cs = some (digits, rest) ↔ ∃ cs', cs = '-' :: cs' ∧ StartsWith Char.isDigit cs' ∧
      digits = some (cs'.takeWhile Char.isDigit) ∧ rest = cs'.dropWhile Char.isDigit := by
  unfold takeBarePost?
  split
  · next cs =>
    by_cases h : StartsWith Char.isDigit cs
    · rw [if_pos h]
      simp [h, eq_comm]
    · rw [if_neg h]
      simp [h]
  · next hcs =>
    simp only [reduceCtorEq, false_iff]
    rintro ⟨cs', rfl, -⟩
    exact hcs cs' rfl

lemma takeBarePost?_eq_none {cs : List Char} (h : ¬ StartsWith isSeparator cs) :
    takeBarePost? cs = none := by
  rw [Option.eq_none_iff_forall_ne_some]
  rintro ⟨digits, rest⟩ hsome
  obtain ⟨cs', rfl, -⟩ := takeBarePost?_eq_some_iff.1 hsome
  exact h (startsWith_cons.2 (by decide))

/-- A letter behind a hyphen is no digit of a bare post-release. -/
lemma takeBarePost?_of_letter {cs : List Char} (h : StartsWith isLetter (dropSeparator cs)) :
    takeBarePost? cs = none := by
  rw [Option.eq_none_iff_forall_ne_some]
  rintro ⟨digits, rest⟩ hsome
  obtain ⟨cs', rfl, hdigit, -⟩ := takeBarePost?_eq_some_iff.1 hsome
  rw [dropSeparator_cons (by decide)] at h
  exact not_startsWith_isDigit_of_isLetter h hdigit

lemma barePost_eq_nil {cs : List Char} (h : takeBarePost? cs = none) : barePost cs = [] := by
  unfold takeBarePost? at h
  split at h
  · next cs =>
    by_cases hcs : StartsWith Char.isDigit cs
    · rw [if_pos hcs] at h
      simp at h
    · rw [barePost, bind_apply, one_cons, if_pos (by decide), List.flatMap_singleton,
        bind_eq_nil (many1_eq_nil hcs)]
  · next hhyphen =>
    exact bind_eq_nil (one_char_eq_nil hhyphen)

lemma namedPost_eq_nil {cs : List Char} (h : takeDigits? postNames cs = none) :
    namedPost cs = [] :=
  bind_eq_nil (named_eq_nil wellNamed_postNames (Option.map_eq_none_iff.1 h))

lemma takenBy_post : TakenBy (either barePost namedPost) takePost? fromDev.Matches where
  missing {cs} h := by
    obtain ⟨hbare, hnamed⟩ := Option.or_eq_none_iff.1 h
    rw [either_of_right (barePost_eq_nil hbare), namedPost_eq_nil hnamed]
  best {cs digits rest} h := by
    cases hbare : takeBarePost? cs with
    | some x =>
      rw [takePost?, hbare, Option.some_or, Option.some.injEq] at h
      subst h
      obtain ⟨cs', rfl, hdigit, rfl, rfl⟩ := takeBarePost?_eq_some_iff.1 hbare
      refine Best.either (Best.bind (best_one (by decide) cs') (Best.map (best_many1 ?_ hdigit))) ?_
      · exact fun _ _ hrest => lettered_fromDev.digit hrest
      · -- no name starts with a digit
        intro x hx
        have hnone : takeNamed? postNames ('-' :: cs') = none := by
          refine takeNamed?_eq_none wellNamed_postNames fun hletter => ?_
          rw [dropSeparator_cons (by decide)] at hletter
          exact not_startsWith_isDigit_of_isLetter hletter hdigit
        rw [namedPost, bind_eq_nil (named_eq_nil wellNamed_postNames hnone)] at hx
        simp at hx
    | none =>
      rw [takePost?, hbare, Option.none_or] at h
      obtain ⟨x, hx, heq⟩ := Option.map_eq_some_iff.1 h
      obtain ⟨rfl, rfl⟩ := Prod.mk.inj heq
      exact Best.congr (Best.map (best_named wellNamed_postNames lettered_fromDev.guarded hx))
        (either_of_right (barePost_eq_nil hbare))
  needed {cs digits rest} h := by
    cases hbare : takeBarePost? cs with
    | some x =>
      obtain ⟨cs', rfl, hdigit, -⟩ := takeBarePost?_eq_some_iff.1 hbare
      intro hdev
      exact not_startsWith_isDigit_of_isLetter
        (lettered_fromDev.separator (by decide) hdev).1 hdigit
    | none =>
      rw [takePost?, hbare, Option.none_or] at h
      obtain ⟨x, hx, -⟩ := Option.map_eq_some_iff.1 h
      exact not_matches_fromDev_of_named wellNamed_postNames (by decide)
        (by rw [hx]; exact Option.some_ne_none _)

/-- **The post-release is taken as it comes.** -/
theorem first?_fromPost (cs : List Char) :
    fromPost.first? cs = (fromDev.first? (left takePost? cs)).map fun parts =>
      { parts with post := found takePost? cs } :=
  takenBy_post.first?_then (fun post (parts : Parts) => ({ parts with post } : Parts)) cs

lemma matches_fromPost (cs : List Char) :
    fromPost.Matches cs ↔ fromDev.Matches (left takePost? cs) :=
  takenBy_post.matches_then (fun post (parts : Parts) => ({ parts with post } : Parts)) cs

lemma left_takePost?_of_not_bare {cs : List Char} (h : takeBarePost? cs = none) :
    left takePost? cs = left (takeNamed? postNames) cs := by
  rw [← left_takeDigits?, left, takePost?, h, Option.none_or, left]

/-- What can end a version can also end it without a post-release. -/
lemma matches_fromPost_of_fromDev {cs : List Char} (h : fromDev.Matches cs) :
    fromPost.Matches cs := by
  rw [matches_fromPost]
  cases htake : takePost? cs with
  | none => rwa [left_of_none htake]
  | some x => exact absurd h (takenBy_post.needed htake)

/-- The only digits that can follow a separator here are those of a bare post-release, and if they
belong to the number before them, what follows them can still end a version. -/
lemma guarded_fromPost : Guarded fromPost.Matches := by
  have hnamed := lettered_fromDev.named wellNamed_postNames (by decide)
  constructor
  case digit =>
    intro cs h
    have hbare := takeBarePost?_eq_none (not_startsWith_isSeparator_of_isDigit h)
    rw [matches_fromPost, left_takePost?_of_not_bare hbare]
    exact hnamed.digit h
  case letter =>
    intro cs h
    have hbare := takeBarePost?_eq_none
      (not_startsWith_isSeparator_of_isLetter (startsWith_isLetter_of_isLeftOver h))
    rw [matches_fromPost, left_takePost?_of_not_bare hbare]
    exact hnamed.letter h
  case skip =>
    intro c cs hc h
    rw [matches_fromPost] at h
    cases hbare : takeBarePost? (c :: cs) with
    | some x =>
      obtain ⟨cs', heq, -, -, hrest⟩ := takeBarePost?_eq_some_iff.1 hbare
      obtain ⟨rfl, rfl⟩ := List.cons_eq_cons.1 heq
      have htake : takePost? ('-' :: cs) = some x := by rw [takePost?, hbare, Option.some_or]
      rw [left_of_some htake, hrest] at h
      exact matches_fromPost_of_fromDev h
    | none =>
      rw [left_takePost?_of_not_bare hbare] at h
      obtain ⟨hletter, h⟩ := hnamed.separator hc h
      have hbare' := takeBarePost?_eq_none (not_startsWith_isSeparator_of_isLetter hletter)
      rwa [dropWhile_eq_self (not_startsWith_isDigit_of_isLetter hletter), matches_fromPost,
        left_takePost?_of_not_bare hbare']

/-! ## The pre-release -/

/-- The pre-release of a version, taken as it comes. -/
def takePre? : List Char → Option ((List Char × Option (List Char)) × List Char) :=
  takeNamed? phaseNames

lemma takenBy_pre : TakenBy (named phaseNames) takePre? fromPost.Matches := by
  refine takenBy_named wellNamed_phaseNames guarded_fromPost fun {cs} h => ?_
  have hbare := takeBarePost?_of_letter (Classical.not_not.1 fun hletter =>
    h (takeNamed?_eq_none wellNamed_phaseNames hletter))
  rw [matches_fromPost, left_takePost?_of_not_bare hbare]
  exact lettered_fromDev.not_left_named (by decide) h
    (not_matches_fromDev_of_named wellNamed_phaseNames (by decide) h)

/-- **The pre-release is taken as it comes.** -/
theorem first?_fromPre (cs : List Char) :
    fromPre.first? cs = (fromPost.first? (left takePre? cs)).map fun parts =>
      { parts with pre := found takePre? cs } :=
  takenBy_pre.first?_then (fun pre (parts : Parts) => ({ parts with pre } : Parts)) cs

/-- What follows a release is not more of it. -/
lemma not_matches_fromPre_of_goesOn {cs : List Char} (h : GoesOn (· = '.') Char.isDigit cs) :
    ¬ fromPre.Matches cs := by
  have hletter : ¬ StartsWith isLetter (dropSeparator cs) := by
    intro hletter
    cases cs with
    | nil => exact h
    | cons c cs =>
      rcases h with h | ⟨h, hdigit⟩
      · have hcs : StartsWith Char.isDigit (c :: cs) := startsWith_cons.2 h
        rw [dropSeparator_eq_self (not_startsWith_isSeparator_of_isDigit hcs)] at hletter
        exact not_startsWith_isDigit_of_isLetter hletter hcs
      · obtain rfl := of_decide_eq_true h
        rw [dropSeparator_cons (by decide)] at hletter
        exact not_startsWith_isDigit_of_isLetter hletter hdigit
  rw [fromPre, takenBy_pre.matches_then (fun pre (parts : Parts) => ({ parts with pre } : Parts)),
    takePre?, left_of_none (takeNamed?_eq_none wellNamed_phaseNames hletter)]
  cases cs with
  | nil => exact absurd h id
  | cons c cs =>
    rcases h with h | ⟨h, hdigit⟩
    · exact guarded_fromPost.digit (startsWith_cons.2 h)
    · obtain rfl := of_decide_eq_true h
      rw [matches_fromPost, left_takePost?_of_not_bare rfl,
        left_of_none (takeNamed?_eq_none wellNamed_postNames hletter)]
      intro hdev
      exact not_startsWith_isDigit_of_isLetter
        (lettered_fromDev.separator (by decide) hdev).1 hdigit

/-! ## The release and the epoch -/

/-- The numbers of a release with the points between them, and what follows them. -/
def spanRelease (cs : List Char) : List Char × List Char := stretch (· = '.') Char.isDigit cs

/-- **As many numbers are taken for the release as there are.** -/
theorem first?_fromRelease {cs : List Char} (h : StartsWith Char.isDigit cs) :
    fromRelease.first? cs = (fromPre.first? (spanRelease cs).2).map fun parts =>
      { parts with release := (spanRelease cs).1 } := by
  have hbest : Best (separated (· = '.') Char.isDigit) (fun _ rest => fromPre.Matches rest) cs
      (spanRelease cs).1 (spanRelease cs).2 := by
    refine best_separated (fun c hc => ?_) (fun _ _ => not_matches_fromPre_of_goesOn) h
    rw [of_decide_eq_true hc]
    rfl
  exact hbest.first?_then

lemma fromRelease_eq_nil {cs : List Char} (h : ¬ StartsWith Char.isDigit cs) :
    fromRelease cs = [] :=
  bind_eq_nil (separated_eq_nil h)

/-- The digits of an epoch, and what follows the exclamation mark behind them. -/
def takeEpoch? (cs : List Char) : Option (List Char × List Char) :=
  match cs.dropWhile Char.isDigit with
  | '!' :: rest =>
    if StartsWith Char.isDigit cs then some (cs.takeWhile Char.isDigit, rest) else none
  | _ => none

lemma takeEpoch?_eq_some_iff {cs digits rest : List Char} :
    takeEpoch? cs = some (digits, rest) ↔ StartsWith Char.isDigit cs ∧
      digits = cs.takeWhile Char.isDigit ∧ cs.dropWhile Char.isDigit = '!' :: rest := by
  unfold takeEpoch?
  split
  · next rest' heq =>
    by_cases h : StartsWith Char.isDigit cs
    · rw [if_pos h, heq]
      simp [h, eq_comm]
    · rw [if_neg h]
      simp [h]
  · next hmark =>
    simp only [reduceCtorEq, false_iff]
    rintro ⟨-, -, hrest⟩
    exact hmark rest hrest

lemma not_matches_fromPre_mark (cs : List Char) : ¬ fromPre.Matches ('!' :: cs) := by
  have hnone {names : List (List Char)} (hnames : WellNamed names) :
      takeNamed? names ('!' :: cs) = none :=
    takeNamed?_eq_none hnames fun h => absurd (startsWith_cons.1 h) (by decide)
  rw [fromPre, takenBy_pre.matches_then (fun pre (parts : Parts) => ({ parts with pre } : Parts)),
    takePre?, left_of_none (hnone wellNamed_phaseNames), matches_fromPost,
    left_takePost?_of_not_bare rfl, left_of_none (hnone wellNamed_postNames), matches_fromDev,
    left_of_none (hnone wellNamed_devNames)]
  exact not_matches_fromLabel (by decide) (by decide)

lemma takenBy_epoch : TakenBy (do
    let digits ← many1 Char.isDigit
    let _ ← one (· = '!')
    return digits) takeEpoch? fromRelease.Matches where
  missing {cs} h := by
    by_cases hcs : StartsWith Char.isDigit cs
    · obtain ⟨others, hmany, hothers⟩ := many1_apply hcs
      rw [bind_apply, hmany, List.flatMap_cons, List.append_eq_nil_iff, List.flatMap_eq_nil_iff]
      refine ⟨bind_eq_nil (one_char_eq_nil fun rest hrest => ?_), fun x hx => ?_⟩
      · rw [takeEpoch?_eq_some_iff.2 ⟨hcs, rfl, hrest⟩] at h
        exact Option.some_ne_none _ h
      · -- fewer digits are followed by a digit
        refine bind_eq_nil (one_char_eq_nil fun rest hrest => ?_)
        have hdigit := hothers x hx
        rw [hrest, startsWith_cons] at hdigit
        exact absurd hdigit (by decide)
    · exact bind_eq_nil (many1_eq_nil hcs)
  best {cs digits rest} h := by
    obtain ⟨hcs, rfl, hrest⟩ := takeEpoch?_eq_some_iff.1 h
    have hmark : Best (one (· = '!') >>= fun _ => pure (cs.takeWhile Char.isDigit))
        (fun _ rest => fromRelease.Matches rest) (cs.dropWhile Char.isDigit)
        (cs.takeWhile Char.isDigit) rest := by
      rw [hrest]
      exact Best.map (best_one (by decide) rest)
    refine Best.bind (best_many1 (fun _ rest hdigit => ?_) hcs) hmark
    rintro ⟨x, hx, -⟩
    obtain ⟨c, rest, rfl, hc⟩ := startsWith_iff.1 hdigit
    rw [bind_eq_nil (one_char_eq_nil fun rest' heq => ?_)] at hx
    · simp at hx
    · obtain ⟨rfl, -⟩ := List.cons_eq_cons.1 heq
      exact absurd hc (by decide)
  needed {cs digits rest} h := by
    obtain ⟨hcs, -, hrest⟩ := takeEpoch?_eq_some_iff.1 h
    have hspan : spanRelease cs = (cs.takeWhile Char.isDigit ++ [], '!' :: rest) := by
      rw [spanRelease, stretch_run, hrest, stretch_of_not_goesOn (by simp [GoesOn])]
    rw [← first?_eq_none_iff, first?_fromRelease hcs, hspan, Option.map_eq_none_iff,
      first?_eq_none_iff]
    exact not_matches_fromPre_mark rest

/-- **The epoch is taken as it comes.** -/
theorem first?_fromEpoch (cs : List Char) :
    fromEpoch.first? cs = (fromRelease.first? (left takeEpoch? cs)).map fun parts =>
      { parts with epoch := found takeEpoch? cs } :=
  takenBy_epoch.first?_then (fun epoch (parts : Parts) => ({ parts with epoch } : Parts)) cs

lemma fromEpoch_eq_nil {cs : List Char} (h : ¬ StartsWith Char.isDigit cs) :
    fromEpoch cs = [] := by
  have htake : takeEpoch? cs = none := by
    rw [Option.eq_none_iff_forall_ne_some]
    rintro ⟨digits, rest⟩ hsome
    exact h (takeEpoch?_eq_some_iff.1 hsome).1
  rw [← Classical.not_not (a := fromEpoch cs = []), ← ne_eq, ← Matches, ← first?_eq_none_iff,
    first?_fromEpoch, left_of_none htake, Option.map_eq_none_iff, first?_eq_none_iff, Matches,
    fromRelease_eq_nil h]
  simp

/-- A version starts with a digit. -/
lemma startsWith_of_fromEpoch {cs : List Char} {parts : Parts}
    (h : fromEpoch.first? cs = some parts) : StartsWith Char.isDigit cs :=
  Classical.not_not.1 fun hdigit => matches_of_first? h (fromEpoch_eq_nil hdigit)

/-- **A version is read behind the blanks and the letter in front of it.** -/
theorem first?_pattern (cs : List Char) :
    pattern.first? cs =
      fromEpoch.first? (dropFirstIf isVersionLetter (cs.dropWhile isBlank)) := by
  have hletter (cs : List Char) : (opt (one isVersionLetter) >>= fun _ => fromEpoch) cs =
      fromEpoch (dropFirstIf isVersionLetter cs) := by
    refine opt_one_bind (fun c cs hc => fromEpoch_eq_nil fun hdigit => ?_) cs
    rw [startsWith_cons] at hdigit
    simp [not_isDigit_of_isLetter (isLetter_of_isVersionLetter hc)] at hdigit
  have hbest : Best (many isBlank)
      (fun _ rest => (opt (one isVersionLetter) >>= fun _ => fromEpoch).Matches rest) cs
      (cs.takeWhile isBlank) (cs.dropWhile isBlank) := by
    refine best_many (fun _ rest hblank => ?_) cs
    obtain ⟨c, rest, rfl, hc⟩ := startsWith_iff.1 hblank
    rw [Matches, hletter, Classical.not_not]
    have hv : isVersionLetter c = false := by
      rw [← Bool.not_eq_true]
      intro hv
      simp [not_isBlank_of_isLetter (isLetter_of_isVersionLetter hv)] at hc
    rw [dropFirstIf, if_neg (by simp [hv])]
    refine fromEpoch_eq_nil fun hdigit => ?_
    simp [not_isBlank_of_isDigit (startsWith_cons.1 hdigit)] at hc
  rw [pattern, hbest.first?_bind, first?, hletter, first?]

end ImageTags.Pep440
