import Mathlib
import ImageTags.Proofs.SpellingReading
import ImageTags.Version.Reading

/-!
# The normal text of a version is read as that version

However a version was spelled, what is read has numbers of 64 bits and a label of segments in lower
case (`Normal`).  The normal text of such a version is one of its spellings, as far as the label,
with the label behind it.  So it is read as the same version again, and normalizing a second time
changes nothing.

* `normal_of_read?` — every version that is read is normal.
* `Normal.read?_text` — a normal version is read from its normal text.
* **`read?_text_of_read?`** — a version that was read is read again from its normal text.
-/

namespace ImageTags

namespace Pep440

open Text Ways

variable {v : Pep440}

/-- What holds of the versions that are read: the numbers fit in 64 bits, and the label is made of
segments that lower case does not change.  The letters of a segment need not be ASCII. -/
structure Normal (v : Pep440) : Prop where
  inRange : v.InRange
  label : ∀ segment ∈ v.label,
    segment ≠ [] ∧ ∀ c ∈ segment, isLabelChar c = true ∧ c.toLower = c

/-! ## What is read is normal -/

lemma number_le (digits : Option (List Char)) : number digits ≤ Numeral.maxWord := by
  cases digits with
  | none => simp [number]
  | some digits =>
    cases hread : Numeral.readWord? digits with
    | none => simp [number, hread]
    | some n =>
      obtain ⟨-, -, hmax, rfl⟩ := Numeral.readWord?_eq_some_iff.1 hread
      simpa [number, hread] using hmax

lemma le_maxWord_of_mapM {runs : List (List Char)} {numbers : List Nat}
    (h : runs.mapM Numeral.readWord? = some numbers) : ∀ n ∈ numbers, n ≤ Numeral.maxWord := by
  obtain ⟨hruns, rfl⟩ := Numeral.mapM_readWord?_eq_some_iff.1 h
  intro n hn
  obtain ⟨run, hrun, rfl⟩ := List.mem_map.1 hn
  exact (hruns run hrun).2.2

/-- The label that is found is one that is taken as it comes, behind all other parts. -/
lemma exists_takeLabel? {cs label : List Char} {parts : Parts} (h : pattern.first? cs = some parts)
    (hlabel : parts.label = some label) : ∃ text rest, takeLabel? text = some (label, rest) := by
  obtain ⟨after, last, hlast, hparts⟩ := exists_of_first?_pattern h
  obtain ⟨-, -, -, hfound, -⟩ := of_first?_fromPre hlast
  rw [hparts, hfound] at hlabel
  obtain ⟨⟨label', rest⟩, htake, rfl⟩ := Option.map_eq_some_iff.1 hlabel
  exact ⟨_, rest, htake⟩

/-- A label that is taken as it comes starts inside of a segment. -/
lemma exists_of_takeLabel? {text label rest : List Char}
    (h : takeLabel? text = some (label, rest)) :
    ∃ cs, StartsWith isLabelChar cs ∧ label = (stretch isSeparator isLabelChar cs).1 := by
  unfold takeLabel? at h
  split at h
  · next cs =>
    by_cases hcs : StartsWith isLabelChar cs
    · rw [if_pos hcs, Option.some.injEq] at h
      exact ⟨cs, hcs, by rw [h]⟩
    · simp [hcs] at h
  · simp at h

lemma toLower_toLower (c : Char) : c.toLower.toLower = c.toLower := by
  by_cases hupper : c.isUpper = true
  · refine toLower_of_not_isUpper fun hlower => ?_
    rw [isUpper_iff, toNat_toLower hupper] at hlower
    rw [isUpper_iff] at hupper
    omega
  · rw [toLower_of_not_isUpper hupper, toLower_of_not_isUpper hupper]

/-- The segments of a label that is taken as it comes. -/
lemma normal_segments {text label rest : List Char} (h : takeLabel? text = some (label, rest)) :
    ∀ segment ∈ segments (label.map Char.toLower),
      segment ≠ [] ∧ ∀ c ∈ segment, isLabelChar c = true ∧ c.toLower = c := by
  obtain ⟨cs, hcs, rfl⟩ := exists_of_takeLabel? h
  obtain ⟨run, others, hstretch, hne, hrun, hothers⟩ :=
    exists_runs_of_stretch (s := isSeparator) hcs
  rw [hstretch, segments_map_toLower hrun fun x hx => ⟨(hothers x hx).1, (hothers x hx).2.2⟩]
  -- each segment is a run in lower case
  have hruns : ∀ run' ∈ run :: others.map Prod.snd,
      run' ≠ [] ∧ ∀ c ∈ run', isLabelChar c = true := by
    refine List.forall_mem_cons.2 ⟨⟨hne, hrun⟩, fun run' hrun' => ?_⟩
    obtain ⟨x, hx, rfl⟩ := List.mem_map.1 hrun'
    exact (hothers x hx).2
  intro segment hsegment
  obtain ⟨run', hmem, rfl⟩ := List.mem_map.1 hsegment
  obtain ⟨hne', hchars⟩ := hruns run' hmem
  refine ⟨by simpa using hne', fun c hc => ?_⟩
  obtain ⟨d, hd, rfl⟩ := List.mem_map.1 hc
  exact ⟨isLabelChar_toLower (hchars d hd), toLower_toLower d⟩

/-- **Every version that is read is normal.** -/
theorem normal_of_read? {cs : List Char} (h : read? cs = some v) : v.Normal := by
  obtain ⟨parts, hparts, h⟩ := Option.bind_eq_some_iff.1 h
  obtain ⟨release, hrelease, h⟩ := Option.bind_eq_some_iff.1 h
  obtain ⟨major, hmajor, h⟩ := Option.bind_eq_some_iff.1 h
  obtain rfl := Option.some.inj h
  have hnumbers := le_maxWord_of_mapM hrelease
  refine ⟨⟨number_le _, hnumbers _ (List.mem_of_head? hmajor), ?_, ?_, ?_, ?_⟩, ?_⟩
  · intro n hn
    exact hnumbers n (List.mem_of_mem_tail hn)
  · intro x hx
    obtain ⟨pre, -, rfl⟩ := Option.map_eq_some_iff.1 hx
    exact number_le _
  · intro n hn
    obtain ⟨post, -, rfl⟩ := Option.map_eq_some_iff.1 hn
    exact number_le _
  · intro n hn
    obtain ⟨dev, -, rfl⟩ := Option.map_eq_some_iff.1 hn
    exact number_le _
  · cases hlabel : parts.label with
    | none => simp
    | some label =>
      obtain ⟨text, rest, htake⟩ := exists_takeLabel? hparts hlabel
      exact normal_segments htake

/-! ## The normal text -/

/-- A number without zeros in front. -/
def Digits.ofNat (n : Nat) : Digits where
  text := Numeral.ofNat n
  ne_nil := Nat.toDigits_ne_nil
  isDigit _ hc := Numeral.isDigit_of_mem_ofNat hc

@[simp] lemma Digits.value_ofNat (n : Nat) : (ofNat n).value = n := Numeral.value_ofNat n

@[simp] lemma Digits.text_ofNat (n : Nat) : (ofNat n).text = Numeral.ofNat n := rfl

lemma none_mem_separators : ∀ c ∈ (none : Option Char), c ∈ separators := by simp

lemma point_mem_separators : ∀ c ∈ some '.', c ∈ separators := by
  intro c hc
  obtain rfl := Option.some.inj hc
  simp [separators]

/-- A part with a label and a number as it is normally written. -/
def NamedSpelling.normal {labels : List (List Char)} (before : Option Char) (name : List Char)
    (n : Nat) (hbefore : ∀ c ∈ before, c ∈ separators) (hname : name.map Char.toLower ∈ labels) :
    NamedSpelling labels where
  before := before
  name := name
  after := none
  digits := some (.ofNat n)
  before_mem := hbefore
  name_mem := hname
  after_mem := none_mem_separators

lemma phaseText_mem (phase : Phase) : (phaseText phase).map Char.toLower ∈ phaseLabels phase := by
  cases phase <;> decide

lemma phaseText_mem_preLabels (phase : Phase) :
    (phaseText phase).map Char.toLower ∈ preLabels := by
  cases phase <;> decide

/-- The normal pre-release of a version. -/
def normalPre (v : Pep440) : Option (NamedSpelling preLabels) :=
  v.pre.map fun x => .normal none (phaseText x.1) x.2 none_mem_separators
    (phaseText_mem_preLabels x.1)

lemma normalPre_clear (v : Pep440) : ∀ part ∈ v.normalPre, part.digits ≠ none := by
  intro part hpart
  obtain ⟨x, -, rfl⟩ := Option.map_eq_some_iff.1 hpart
  simp [NamedSpelling.normal]

/-- The normal spelling of a version without its label. -/
def normalSpelling (v : Pep440) : Spelling where
  blanks := []
  letter := none
  epoch := if v.epoch > 0 then some (.ofNat v.epoch) else none
  major := .ofNat v.major
  others := v.others.map .ofNat
  pre := v.normalPre
  post := v.post.map fun n =>
    .named (.normal (some '.') ['p', 'o', 's', 't'] n point_mem_separators (by decide))
  dev := v.dev.map fun n => .normal (some '.') ['d', 'e', 'v'] n point_mem_separators (by decide)
  label := none
  trailing := []
  blanks_allBlank := rfl
  letter_mem _ hc := absurd hc (Option.not_mem_none _)
  pre_clear part hpart hnone := absurd hnone (v.normalPre_clear part hpart)
  trailing_allBlank := rfl

/-- The normal spelling spells the version, but for its label. -/
lemma spells_normalSpelling (v : Pep440) : v.normalSpelling.Spells { v with label := [] } where
  epoch := by
    show optValue (if v.epoch > 0 then some (Digits.ofNat v.epoch) else none) = v.epoch
    split
    · exact Digits.value_ofNat v.epoch
    · simp only [optValue, Option.map_none, Option.getD_none]
      omega
  major := Digits.value_ofNat v.major
  others := by simp [normalSpelling, Function.comp_def]
  pre := by
    show Option.Rel _ (v.pre.map _) v.pre
    cases v.pre with
    | none => exact Option.Rel.none
    | some x => exact Option.Rel.some ⟨phaseText_mem x.1, Digits.value_ofNat x.2⟩
  post := by
    show (v.post.map _).map _ = v.post
    cases v.post with
    | none => rfl
    | some n => exact congrArg some (Digits.value_ofNat n)
  dev := by
    show (v.dev.map _).map _ = v.dev
    cases v.dev with
    | none => rfl
    | some n => exact congrArg some (Digits.value_ofNat n)
  label := rfl

/-- The normal text is the normal spelling with the label behind it. -/
lemma text_eq_normalSpelling (v : Pep440) :
    v.text = v.normalSpelling.upToLabel (optText ('+' :: ·) v.labelText?) := by
  have hnumbers : (v.normalSpelling.major :: v.normalSpelling.others).map Digits.text =
      (v.major :: v.others).map Numeral.ofNat := by
    simp [normalSpelling, Function.comp_def]
  rw [Spelling.upToLabel, Spelling.release, hnumbers, text]
  obtain ⟨epoch, major, others, pre, post, dev, label⟩ := v
  simp only [normalSpelling, normalPre, List.nil_append, Option.toList_none, List.append_assoc]
  congr 1
  · split <;> rfl
  congr 1
  congr 1
  · cases pre <;> simp [NamedSpelling.text, NamedSpelling.normal]
  congr 1
  · cases post <;> simp [PostSpelling.text, NamedSpelling.text, NamedSpelling.normal]
  congr 1
  · cases dev <;> simp [NamedSpelling.text, NamedSpelling.normal]
  · cases Pep440.labelText? ⟨epoch, major, others, pre, post, dev, label⟩ <;> rfl

namespace Normal

/-- The label of a normal version is found as it is written. -/
lemma takeLabel?_labelText (h : v.Normal) :
    ∀ text ∈ v.labelText?, takeLabel? ('+' :: text ++ []) = some (text, []) := by
  intro text htext
  rw [labelText?] at htext
  cases hlabel : v.label with
  | nil => simp [hlabel] at htext
  | cons segment others =>
    obtain ⟨hsegment, hothers⟩ := List.forall_mem_cons.1 (hlabel ▸ h.label)
    obtain rfl : joinWith ['.'] (segment :: others) = text := by simpa [hlabel] using htext
    rw [joinWith_cons_eq]
    refine takeLabel?_segments hsegment.1 (fun c hc => (hsegment.2 c hc).1) ?_ rfl
    intro x hx
    obtain ⟨other, hother, rfl⟩ := List.mem_map.1 hx
    obtain ⟨hne, hchars⟩ := hothers other hother
    exact ⟨rfl, hne, fun c hc => (hchars c hc).1⟩

/-- The segments of a normal version are those of the text of its label. -/
lemma segments_labelText (h : v.Normal) :
    (v.labelText?.map fun label => segments (label.map Char.toLower)).getD [] = v.label := by
  rw [labelText?]
  cases hlabel : v.label with
  | nil => rfl
  | cons segment others =>
    have hall := hlabel ▸ h.label
    obtain ⟨hsegment, hothers⟩ := List.forall_mem_cons.1 hall
    have hsnd : (others.map fun other => ('.', other)).map Prod.snd = others := by
      simp [Function.comp_def]
    -- lower case leaves the segments as they are
    have hlower : ∀ other ∈ segment :: others, other.map Char.toLower = other := by
      intro other hother
      rw [List.map_congr_left fun c hc => ((hall other hother).2 c hc).2]
      simp
    rw [if_neg (by simp), Option.map_some, Option.getD_some, joinWith_cons_eq,
      segments_map_toLower (fun c hc => (hsegment.2 c hc).1), hsnd]
    · exact (List.map_congr_left hlower).trans (List.map_id _)
    · intro x hx
      obtain ⟨other, hother, rfl⟩ := List.mem_map.1 hx
      exact ⟨rfl, fun c hc => ((hothers other hother).2 c hc).1⟩

/-- **A normal version is read from its normal text.** -/
theorem read?_normalText (h : v.Normal) : read? v.text = some v := by
  have hrange : InRange { v with label := [] } := by
    obtain ⟨hepoch, hmajor, hothers, hpre, hpost, hdev⟩ := h.inRange
    exact ⟨hepoch, hmajor, hothers, hpre, hpost, hdev⟩
  have hdetached := detached_fromLabel rfl h.takeLabel?_labelText
  rw [List.append_nil] at hdetached
  rw [read?, text_eq_normalSpelling, v.normalSpelling.first?_upToLabel hdetached, Option.bind_some,
    Spelling.version?_parts v.spells_normalSpelling hrange, h.segments_labelText]

end Normal

/-- **A version that was read is read again from its normal text**, and all that rules use of the
reading but the text that was given stays the same. -/
theorem read?_text_of_read? {raw : String} (h : read? raw.toList = some v) :
    read? v.text = some v ∧ ∃ a, Dialect.pep440.read? raw = some a ∧
      a.version = String.ofList v.text ∧
      Dialect.pep440.read? a.version = some { a with raw := a.version } := by
  have hagain := (normal_of_read? h).read?_normalText
  refine ⟨hagain, ⟨raw, String.ofList v.text, v.major, v.minor, v.patch, v.isUnstable⟩, ?_, rfl, ?_⟩
  · rw [Dialect.read?, h, Option.map_some]
  · rw [Dialect.read?, String.toList_ofList, hagain, Option.map_some]

/-- A version with all parts, of which the post-release has no name, the development release has no
number and the label holds a letter outside of ASCII. -/
theorem read?_text_of_bare_post : ∃ v,
    read? " v01!2.030PREVIEW-4-05_dev+uBUNTU-ſ.01\n".toList = some v ∧
      String.ofList v.text = "1!2.30rc4.post5.dev0+ubuntu.ſ.01" ∧
      read? v.text = some v ∧
      ∃ a, Dialect.pep440.read? " v01!2.030PREVIEW-4-05_dev+uBUNTU-ſ.01\n" = some a ∧
        a.version = String.ofList v.text ∧
        Dialect.pep440.read? a.version = some { a with raw := a.version } := by
  have h : read? " v01!2.030PREVIEW-4-05_dev+uBUNTU-ſ.01\n".toList =
      some ⟨1, 2, [30], some (.candidate, 4), some 5, some 0,
        [['u', 'b', 'u', 'n', 't', 'u'], ['ſ'], ['0', '1']]⟩ := by cbv
  exact ⟨_, h, by cbv, read?_text_of_read? h⟩

end Pep440

end ImageTags
