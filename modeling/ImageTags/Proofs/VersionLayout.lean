import ImageTags.Proofs.VersionNames
import ImageTags.Proofs.VersionSpelling
import ImageTags.Proofs.WaysRead

/-!
# Where the parts of a version are written

A text that the pattern of PEP 440 versions accepts is laid out: blanks, the letter, the epoch, the
release, the optional parts, the local label and blanks follow one another, each as it is written.
Every such layout is a way of the pattern, and every way is a layout.

* `WritesNamed`, `WritesPost` — the texts of the parts with a name.
* `Layout` — a choice of the texts of all parts, and `Layout.text`.
* **`readsAll_pattern`** — the pattern finds some parts in a text exactly if they are laid out in
  it.
-/

namespace ImageTags.Pep440

open Text Ways

/-! ## The texts of the parts -/

/-- The text of an optional part that is written in one way only. -/
lemma optionally_iff {α : Type} {f : α → List Char} {P : α → Prop} {part : Option α}
    {text : List Char} : Optionally (fun a text => text = f a ∧ P a) part text ↔
      text = optText f part ∧ ∀ a ∈ part, P a := by
  cases part with
  | none => simp [Optionally]
  | some a => simp [Optionally]

/-- The numeral of a number is a run of digits. -/
lemma run_ofNat (n : Nat) : Run Char.isDigit (Numeral.ofNat n) :=
  ⟨Nat.toDigits_ne_nil, fun _ hc => Numeral.isDigit_of_mem_ofNat hc⟩

/-- The texts of a part with one of some names: a separator or none, the name in any case, a
separator or none, and the digits unless they are left out. -/
def WritesNamed (names : List (List Char)) (part : List Char × Option (List Char))
    (text : List Char) : Prop :=
  ∃ before after : Option Char,
    text = optText ([·]) before ++ (part.1 ++ (optText ([·]) after ++ optText id part.2)) ∧
      (∀ c ∈ before, isSeparator c = true) ∧ part.1.map plainLetter ∈ names ∧
      (∀ c ∈ after, isSeparator c = true) ∧ ∀ digits ∈ part.2, Run Char.isDigit digits

/-- The texts of a post-release: a hyphen and digits, or a part with a name. -/
def WritesPost (digits : Option (List Char)) (text : List Char) : Prop :=
  (∃ run, digits = some run ∧ text = '-' :: run ∧ Run Char.isDigit run) ∨
    ∃ name, WritesNamed postNames (name, digits) text

/-- The texts of a development release. -/
def WritesDev (digits : Option (List Char)) (text : List Char) : Prop :=
  ∃ name, WritesNamed devNames (name, digits) text

/-- The digits of a part with a name are digits, and there is one. -/
lemma WritesNamed.run {names : List (List Char)} {part : List Char × Option (List Char)}
    {text : List Char} (h : WritesNamed names part text) :
    ∀ run ∈ part.2, Run Char.isDigit run := by
  obtain ⟨before, after, -, -, -, -, hdigits⟩ := h
  exact hdigits

lemma WritesPost.run {digits : Option (List Char)} {text : List Char}
    (h : WritesPost digits text) : ∀ run ∈ digits, Run Char.isDigit run := by
  rcases h with ⟨run, rfl, -, hrun⟩ | ⟨name, hname⟩
  · intro run' hrun'
    obtain rfl := Option.some.inj hrun'
    exact hrun
  · exact hname.run

lemma WritesDev.run {digits : Option (List Char)} {text : List Char}
    (h : WritesDev digits text) : ∀ run ∈ digits, Run Char.isDigit run := by
  obtain ⟨name, hname⟩ := h
  exact hname.run

lemma reads_anyName (names : List (List Char)) :
    (anyName names).Reads fun word text => text = word ∧ word.map plainLetter ∈ names := by
  intro cs word rest
  rw [anyName, List.mem_filterMap]
  constructor
  · rintro ⟨name, hname, hspan⟩
    obtain ⟨rfl, rfl⟩ := spanName?_eq_some_iff.1 hspan
    exact ⟨word, rfl, rfl, hname⟩
  · rintro ⟨text, rfl, rfl, hname⟩
    exact ⟨_, hname, spanName?_eq_some_iff.2 ⟨rfl, rfl⟩⟩

lemma reads_optOne {p : Char → Bool} : (opt (one p)).Reads fun c text =>
    text = optText ([·]) c ∧ ∀ a ∈ c, p a = true :=
  reads_one.opt.congr fun _ _ => optionally_iff

lemma reads_optMany1 {p : Char → Bool} : (opt (many1 p)).Reads fun run text =>
    text = optText id run ∧ ∀ a ∈ run, Run p a :=
  reads_many1.opt.congr fun _ _ => optionally_iff (f := id)

lemma reads_named (names : List (List Char)) : (named names).Reads (WritesNamed names) := by
  refine Reads.congr (reads_optOne.bind fun _ => (reads_anyName names).bind fun word =>
    reads_optOne.bind fun _ => reads_optMany1.map fun digits => (word, digits)) fun part text => ?_
  constructor
  · rintro ⟨before, _, _, rfl, ⟨rfl, hbefore⟩, word, _, _, rfl, ⟨rfl, hword⟩, after, _, _, rfl,
      ⟨rfl, hafter⟩, digits, rfl, rfl, hdigits⟩
    exact ⟨before, after, rfl, hbefore, hword, hafter, hdigits⟩
  · rintro ⟨before, after, rfl, hbefore, hword, hafter, hdigits⟩
    exact ⟨before, _, _, rfl, ⟨rfl, hbefore⟩, part.1, _, _, rfl, ⟨rfl, hword⟩, after, _, _, rfl,
      ⟨rfl, hafter⟩, part.2, rfl, rfl, hdigits⟩

lemma reads_barePost : barePost.Reads fun digits text =>
    ∃ run, digits = some run ∧ text = '-' :: run ∧ Run Char.isDigit run := by
  refine Reads.congr (reads_one.bind fun _ => reads_many1.map some) fun digits text => ?_
  constructor
  · rintro ⟨c, _, _, rfl, ⟨rfl, hc⟩, run, rfl, rfl, hrun⟩
    exact ⟨_, rfl, by rw [of_decide_eq_true hc]; rfl, hrun⟩
  · rintro ⟨run, rfl, rfl, hrun⟩
    exact ⟨'-', _, run, rfl, ⟨rfl, by decide⟩, run, rfl, rfl, hrun⟩

/-- The texts of the digits of a part whose name does not matter. -/
lemma reads_digits (names : List (List Char)) :
    (named names >>= fun part => pure part.2).Reads fun digits text =>
      ∃ name, WritesNamed names (name, digits) text := by
  refine Reads.congr ((reads_named names).map Prod.snd) fun digits text => ?_
  constructor
  · rintro ⟨⟨name, digits⟩, rfl, hpart⟩
    exact ⟨name, hpart⟩
  · rintro ⟨name, hpart⟩
    exact ⟨(name, digits), rfl, hpart⟩

lemma reads_post : (either barePost namedPost).Reads WritesPost :=
  reads_barePost.either (reads_digits postNames)

lemma reads_dev : namedDev.Reads WritesDev := reads_digits devNames

/-- The texts of a local label with its plus sign. -/
lemma reads_label : (opt do
    let _ ← one (· = '+')
    separated isSeparator isLabelChar).Reads fun label text =>
      text = optText ('+' :: ·) label ∧ ∀ l ∈ label, RunsBetween isSeparator isLabelChar l := by
  have hlabel : (do
      let _ ← one (· = '+')
      separated isSeparator isLabelChar).Reads fun label text =>
        text = '+' :: label ∧ RunsBetween isSeparator isLabelChar label := by
    refine Reads.congr (reads_one.bind fun _ => reads_separated) fun label text => ?_
    constructor
    · rintro ⟨c, _, _, rfl, ⟨rfl, hc⟩, rfl, hlabel⟩
      exact ⟨by rw [of_decide_eq_true hc]; rfl, hlabel⟩
    · rintro ⟨rfl, hlabel⟩
      exact ⟨'+', _, label, rfl, ⟨rfl, by decide⟩, rfl, hlabel⟩
  exact hlabel.opt.congr fun _ _ => optionally_iff

/-- The texts of an epoch with its exclamation mark. -/
lemma reads_epoch : (opt do
    let digits ← many1 Char.isDigit
    let _ ← one (· = '!')
    return digits).Reads fun epoch text =>
      text = optText (· ++ ['!']) epoch ∧ ∀ digits ∈ epoch, Run Char.isDigit digits := by
  have hepoch : (do
      let digits ← many1 Char.isDigit
      let _ ← one (· = '!')
      return digits).Reads fun digits text =>
        text = digits ++ ['!'] ∧ Run Char.isDigit digits := by
    refine Reads.congr (reads_many1.bind fun digits => reads_one.map fun _ => digits)
      fun digits text => ?_
    constructor
    · rintro ⟨_, _, _, rfl, ⟨rfl, hdigits⟩, c, rfl, rfl, hc⟩
      exact ⟨by rw [of_decide_eq_true hc], hdigits⟩
    · rintro ⟨rfl, hdigits⟩
      exact ⟨digits, _, ['!'], rfl, ⟨rfl, hdigits⟩, '!', rfl, rfl, by decide⟩
  exact hepoch.opt.congr fun _ _ => optionally_iff

lemma readsAll_toEnd : toEnd.ReadsAll fun _ text => allBlank text = true := by
  refine ReadsAll.congr (reads_many.bind_all fun _ => readsAll_atEnd) fun _ text => ?_
  constructor
  · rintro ⟨run, _, _, rfl, ⟨rfl, hrun⟩, rfl⟩
    rw [List.append_nil]
    exact List.all_eq_true.2 hrun
  · intro h
    exact ⟨text, text, [], (List.append_nil _).symm, ⟨rfl, List.all_eq_true.1 h⟩, rfl⟩

/-! ## The layout of a version -/

/-- The texts in which some parts are written, one after the other. -/
structure Layout (parts : Parts) where
  blanks : List Char
  letter : Option Char
  pre : List Char
  post : List Char
  dev : List Char
  trailing : List Char
  blanks_allBlank : ∀ c ∈ blanks, isBlank c = true
  letter_isVersionLetter : ∀ c ∈ letter, isVersionLetter c = true
  epoch_run : ∀ digits ∈ parts.epoch, Run Char.isDigit digits
  release_runs : RunsBetween (· = '.') Char.isDigit parts.release
  pre_writes : Optionally (WritesNamed phaseNames) parts.pre pre
  post_writes : Optionally WritesPost parts.post post
  dev_writes : Optionally WritesDev parts.dev dev
  label_runs : ∀ label ∈ parts.label, RunsBetween isSeparator isLabelChar label
  trailing_allBlank : allBlank trailing = true

namespace Layout

variable {parts : Parts}

/-- The text behind the release. -/
def afterRelease (l : Layout parts) : List Char :=
  l.pre ++ (l.post ++ (l.dev ++ (optText ('+' :: ·) parts.label ++ l.trailing)))

/-- The whole text. -/
def text (l : Layout parts) : List Char :=
  l.blanks ++ (optText ([·]) l.letter ++ (optText (· ++ ['!']) parts.epoch ++
    (parts.release ++ l.afterRelease)))

end Layout

/-- What follows a release is laid out like the end of a version. -/
lemma readsAll_fromPre : fromPre.ReadsAll fun parts text => ∃ pre post dev trailing,
    text = pre ++ (post ++ (dev ++ (optText ('+' :: ·) parts.label ++ trailing))) ∧
      parts.epoch = none ∧ parts.release = [] ∧
      Optionally (WritesNamed phaseNames) parts.pre pre ∧
      Optionally WritesPost parts.post post ∧ Optionally WritesDev parts.dev dev ∧
      (∀ label ∈ parts.label, RunsBetween isSeparator isLabelChar label) ∧
      allBlank trailing = true := by
  have hlabel := reads_label.bind_all fun label =>
    readsAll_toEnd.map fun _ => ({ label } : Parts)
  have hdev := reads_dev.opt.bind_all fun dev =>
    hlabel.map fun parts => ({ parts with dev } : Parts)
  have hpost := reads_post.opt.bind_all fun post =>
    hdev.map fun parts => ({ parts with post } : Parts)
  have hpre := (reads_named phaseNames).opt.bind_all fun pre =>
    hpost.map fun parts => ({ parts with pre } : Parts)
  refine ReadsAll.congr hpre fun parts text => ?_
  constructor
  · rintro ⟨_, pre, _, rfl, hpre, _, rfl, _, post, _, rfl, hpost, _, rfl, _, dev, _, rfl, hdev, _,
      rfl, _, _, trailing, rfl, ⟨rfl, hlabel⟩, _, rfl, htrailing⟩
    exact ⟨pre, post, dev, trailing, rfl, rfl, rfl, hpre, hpost, hdev, hlabel, htrailing⟩
  · obtain ⟨epoch, release, pre, post, dev, label⟩ := parts
    rintro ⟨pre, post, dev, trailing, rfl, rfl, rfl, hpre, hpost, hdev, hlabel, htrailing⟩
    exact ⟨_, pre, _, rfl, hpre, _, rfl, _, post, _, rfl, hpost, _, rfl, _, dev, _, rfl, hdev, _,
      rfl, _, _, trailing, rfl, ⟨rfl, hlabel⟩, (), rfl, htrailing⟩

/-- **The pattern finds some parts in a text exactly if they are laid out in it.** -/
theorem readsAll_pattern :
    pattern.ReadsAll fun parts text => ∃ l : Layout parts, l.text = text := by
  have hruns := reads_separated (s := (· = '.')) (p := Char.isDigit)
  have hrelease := hruns.bind_all fun release => readsAll_fromPre.map fun parts =>
    ({ parts with release } : Parts)
  have hepoch := reads_epoch.bind_all fun epoch =>
    hrelease.map fun parts => ({ parts with epoch } : Parts)
  refine ReadsAll.congr (reads_many.bind_all fun _ => reads_optOne.bind_all fun _ => hepoch)
    fun parts text => ?_
  constructor
  · rintro ⟨_, blanks, _, rfl, ⟨rfl, hblanks⟩, letter, _, _, rfl, ⟨rfl, hletter⟩, epoch, _, _, rfl,
      ⟨rfl, hepoch⟩, _, rfl, release, _, _, rfl, ⟨rfl, hrelease⟩, last, rfl, pre, post, dev,
      trailing, rfl, -, -, hpre, hpost, hdev, hlabel, htrailing⟩
    exact ⟨⟨blanks, letter, pre, post, dev, trailing, hblanks, hletter, hepoch, hrelease, hpre,
      hpost, hdev, hlabel, htrailing⟩, rfl⟩
  · obtain ⟨epoch, release, pre, post, dev, label⟩ := parts
    rintro ⟨l, rfl⟩
    exact ⟨_, l.blanks, _, rfl, ⟨rfl, l.blanks_allBlank⟩, l.letter, _, _, rfl,
      ⟨rfl, l.letter_isVersionLetter⟩, epoch, _, _, rfl, ⟨rfl, l.epoch_run⟩,
      { release, pre, post, dev, label }, rfl, release, _, _, rfl, ⟨rfl, l.release_runs⟩,
      { pre, post, dev, label }, rfl, l.pre, l.post, l.dev, l.trailing, rfl, rfl, rfl,
      l.pre_writes, l.post_writes, l.dev_writes, l.label_runs, l.trailing_allBlank⟩

end ImageTags.Pep440
