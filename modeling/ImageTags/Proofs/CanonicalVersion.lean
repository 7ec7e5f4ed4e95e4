import ImageTags.Proofs.NormalVersion
import ImageTags.Proofs.VersionLayout

/-!
# The canonical shape of the normal text

The normal text of a version has the canonical shape of PEP 440: numbers without zeros in front, the
short names of the parts, and segments with points between them behind a plus sign.  The shape is
one over the characters that a segment may have.  Besides `a` to `z` and digits these are two
letters that are not ASCII and count as `s` and `k` in any case, so they are let in, and lower case
does not replace them.

* `IsNumeral` — numbers without zeros in front.
* `CanonicalShape`, `Canonical` — the canonical shape, over some characters.
* `Normal.canonical` — the normal text has it over the characters of the label.
* **`canonical_of_read?`** — so does every text that is read, and where it is ASCII.
-/

namespace ImageTags.Pep440

open Text Ways

/-! ## The canonical shape -/

/-- A number without zeros in front of it. -/
def IsNumeral (run : List Char) : Prop :=
  Run Char.isDigit run ∧ (run.head? = some '0' → run = ['0'])

/-- The parts of a version in canonical shape; `p` tells the characters of the label. -/
structure CanonicalShape (p : Char → Bool) where
  epoch : Option (List Char)
  release : List (List Char)
  pre : Option (List Char × List Char)
  post : Option (List Char)
  dev : Option (List Char)
  label : Option (List (List Char))
  epoch_pos : ∀ n ∈ epoch, IsNumeral n ∧ n ≠ ['0']
  release_ne_nil : release ≠ []
  release_isNumeral : ∀ n ∈ release, IsNumeral n
  pre_isNumeral : ∀ x ∈ pre, x.1 ∈ [['a'], ['b'], ['r', 'c']] ∧ IsNumeral x.2
  post_isNumeral : ∀ n ∈ post, IsNumeral n
  dev_isNumeral : ∀ n ∈ dev, IsNumeral n
  label_runs : ∀ segments ∈ label, segments ≠ [] ∧ ∀ segment ∈ segments, Run p segment

/-- The text of a version in canonical shape. -/
def CanonicalShape.text {p : Char → Bool} (s : CanonicalShape p) : List Char :=
  optText (· ++ ['!']) s.epoch ++ (joinWith ['.'] s.release ++
    (optText (fun x => x.1 ++ x.2) s.pre ++ (optText (['.', 'p', 'o', 's', 't'] ++ ·) s.post ++
      (optText (['.', 'd', 'e', 'v'] ++ ·) s.dev ++
        optText (fun segments => '+' :: joinWith ['.'] segments) s.label))))

/-- Whether a text is a version in canonical shape. -/
def Canonical (p : Char → Bool) (cs : List Char) : Prop := ∃ s : CanonicalShape p, s.text = cs

/-- The characters of a label in canonical shape. -/
def isCanonicalChar (c : Char) : Bool := c.isLower || c.isDigit

/-- The letters that count as ASCII letters but are none. -/
def isOddLetter (c : Char) : Bool := c = 'ſ' || c = '\u212a'

/-! ## Numbers -/

lemma ofNat_ne_zero {n : Nat} (h : 0 < n) : Numeral.ofNat n ≠ ['0'] := by
  intro hzero
  have hvalue := Numeral.value_ofNat n
  rw [hzero] at hvalue
  exact Nat.ne_of_lt h hvalue

/-- The numeral of a number has no zeros in front. -/
lemma isNumeral_ofNat (n : Nat) : IsNumeral (Numeral.ofNat n) := by
  refine ⟨run_ofNat n, ?_⟩
  induction n using Nat.strongRecOn with | ind n ih => ?_
  by_cases hn : n < 10
  · rw [Numeral.ofNat, Nat.toDigits_of_lt_base hn]
    simp
  · -- the first digit is that of a tenth of the number
    rw [Numeral.ofNat, Nat.toDigits_of_base_le (by decide) (by omega)]
    intro hhead
    rw [List.head?_append_of_ne_nil _ Nat.toDigits_ne_nil] at hhead
    exact absurd (ih _ (by omega) hhead) (ofNat_ne_zero (by omega))

/-- What holds of every numeral holds of the numbers that are there. -/
lemma isNumeral_of_mem_map {n : Option Nat} : ∀ run ∈ n.map Numeral.ofNat, IsNumeral run := by
  intro run hrun
  obtain ⟨m, -, rfl⟩ := Option.map_eq_some_iff.1 hrun
  exact isNumeral_ofNat m

/-! ## The normal text -/

variable {v : Pep440} {p : Char → Bool}

lemma phaseText_mem_names (phase : Phase) : phaseText phase ∈ [['a'], ['b'], ['r', 'c']] := by
  cases phase <;> decide

/-- The canonical shape of a normal version, over the characters of its label. -/
def Normal.shape (h : v.Normal) (hp : ∀ segment ∈ v.label, ∀ c ∈ segment, p c = true) :
    CanonicalShape p where
  epoch := if v.epoch > 0 then some (Numeral.ofNat v.epoch) else none
  release := (v.major :: v.others).map Numeral.ofNat
  pre := v.pre.map fun x => (phaseText x.1, Numeral.ofNat x.2)
  post := v.post.map Numeral.ofNat
  dev := v.dev.map Numeral.ofNat
  label := if v.label = [] then none else some v.label
  epoch_pos := by
    intro n hn
    split at hn
    · next hpos =>
      obtain rfl := Option.some.inj hn
      exact ⟨isNumeral_ofNat v.epoch, ofNat_ne_zero hpos⟩
    · simp at hn
  release_ne_nil := by simp
  release_isNumeral := by
    intro run hrun
    obtain ⟨n, -, rfl⟩ := List.mem_map.1 hrun
    exact isNumeral_ofNat n
  pre_isNumeral := by
    intro x hx
    obtain ⟨⟨phase, n⟩, -, rfl⟩ := Option.map_eq_some_iff.1 hx
    exact ⟨phaseText_mem_names phase, isNumeral_ofNat n⟩
  post_isNumeral := isNumeral_of_mem_map
  dev_isNumeral := isNumeral_of_mem_map
  label_runs := by
    intro segments hsegments
    split at hsegments
    · simp at hsegments
    · next hne =>
      obtain rfl := Option.some.inj hsegments
      exact ⟨hne, fun segment hsegment => ⟨(h.label segment hsegment).1, hp segment hsegment⟩⟩

/-- The normal text is the text of that shape. -/
lemma Normal.text_shape (h : v.Normal) (hp : ∀ segment ∈ v.label, ∀ c ∈ segment, p c = true) :
    (h.shape hp).text = v.text := by
  obtain ⟨epoch, major, others, pre, post, dev, label⟩ := v
  simp only [CanonicalShape.text, shape, text, labelText?, List.append_assoc]
  congr 1
  · split <;> rfl
  congr 2
  · cases pre <;> rfl
  congr 1
  · cases post <;> rfl
  congr 1
  · cases dev <;> rfl
  · split <;> rfl

/-! ## The characters of the label -/

lemma segments_ne_nil (label : List Char) : segments label ≠ [] := by
  cases label with
  | nil => simp [segments]
  | cons c label =>
    rw [segments]
    split
    · simp
    · split <;> simp

/-- The characters of the segments of a label are those of the label but for separators. -/
lemma exists_mem_segments_iff {label : List Char} {c : Char} :
    (∃ segment ∈ segments label, c ∈ segment) ↔ c ∈ label ∧ isSeparator c = false := by
  induction label with
  | nil => simp [segments]
  | cons d label ih =>
    rw [segments]
    by_cases hd : isSeparator d = true
    · rw [if_pos hd]
      simp only [List.mem_cons, exists_eq_or_imp, List.not_mem_nil, false_or, ih]
      constructor
      · rintro ⟨hc, hsep⟩
        exact ⟨Or.inr hc, hsep⟩
      · rintro ⟨rfl | hc, hsep⟩
        · simp [hd] at hsep
        · exact ⟨hc, hsep⟩
    · rw [if_neg hd]
      have hd' : isSeparator d = false := by simpa using hd
      cases hsegments : segments label with
      | nil => exact absurd hsegments (segments_ne_nil label)
      | cons segment others =>
        rw [hsegments] at ih
        simp only [List.mem_cons, exists_eq_or_imp] at ih ⊢
        rw [or_assoc, ih]
        constructor
        · rintro (rfl | ⟨hc, hsep⟩)
          · exact ⟨Or.inl rfl, hd'⟩
          · exact ⟨Or.inr hc, hsep⟩
        · rintro ⟨rfl | hc, hsep⟩
          · exact Or.inl rfl
          · exact Or.inr ⟨hc, hsep⟩

lemma isOddLetter_iff {c : Char} : isOddLetter c = true ↔ c = 'ſ' ∨ c = '\u212a' := by
  simp [isOddLetter]

/-- Lower case is for ASCII only: it neither makes one of the odd letters nor replaces one. -/
lemma toLower_eq_iff {c d : Char} (hc : isOddLetter c = true) : d.toLower = c ↔ d = c := by
  by_cases hd : d.isUpper = true
  · have hrange := isUpper_iff.1 hd
    have hlower := toNat_toLower hd
    constructor
    · rintro rfl
      rcases isOddLetter_iff.1 hc with h | h <;> rw [h] at hlower <;> simp at hlower <;> omega
    · rintro rfl
      rcases isOddLetter_iff.1 hc with rfl | rfl <;> simp at hrange
  · rw [toLower_of_not_isUpper hd]

/-- The odd letters of a version are those of the label that is written. -/
lemma exists_odd_label_iff {parts : Parts} (h : parts.version? = some v) {c : Char}
    (hc : isOddLetter c = true) :
    (∃ segment ∈ v.label, c ∈ segment) ↔ ∃ label ∈ parts.label, c ∈ label := by
  obtain ⟨numbers, -, h⟩ := Option.bind_eq_some_iff.1 h
  obtain ⟨major, -, h⟩ := Option.bind_eq_some_iff.1 h
  obtain rfl := Option.some.inj h
  have hsep : isSeparator c = false := by
    rcases isOddLetter_iff.1 hc with rfl | rfl <;> decide
  cases parts.label with
  | none => simp
  | some label =>
    simp [exists_mem_segments_iff, toLower_eq_iff hc, hsep]

/-- The characters of the label of a normal version are canonical or odd. -/
lemma Normal.isCanonicalChar_or (h : v.Normal) {segment : List Char} (hsegment : segment ∈ v.label)
    {c : Char} (hc : c ∈ segment) : isCanonicalChar c = true ∨ isOddLetter c = true := by
  obtain ⟨hchar, hlower⟩ := (h.label segment hsegment).2 c hc
  rcases (Bool.or_eq_true _ _).mp hchar with hletter | hdigit
  · rcases isLetter_iff.1 hletter with hupper | hsmall | hodd
    · have hcode := toNat_toLower hupper
      rw [hlower] at hcode
      omega
    · exact Or.inl ((Bool.or_eq_true _ _).mpr (Or.inl hsmall))
    · exact Or.inr (isOddLetter_iff.2 hodd)
  · exact Or.inl ((Bool.or_eq_true _ _).mpr (Or.inr hdigit))

/-! ## Texts in canonical shape over ASCII -/

lemma not_isOddLetter_of_isCanonicalChar {c : Char} (h : isCanonicalChar c = true) :
    isOddLetter c = false := by
  rw [← Bool.not_eq_true]
  intro hodd
  rcases isOddLetter_iff.1 hodd with rfl | rfl <;> exact absurd h (by decide)

lemma IsNumeral.not_isOddLetter {run : List Char} (h : IsNumeral run) :
    ∀ c ∈ run, isOddLetter c = false := fun c hc =>
  not_isOddLetter_of_isCanonicalChar ((Bool.or_eq_true _ _).mpr (Or.inr (h.1.2 c hc)))

/-- No odd letter stands in a text that is in canonical shape over ASCII. -/
lemma CanonicalShape.not_isOddLetter (s : CanonicalShape isCanonicalChar) :
    ∀ c ∈ s.text, isOddLetter c = false := by
  have hopt {α : Type} {f : α → List Char} {part : Option α}
      (h : ∀ a ∈ part, ∀ c ∈ f a, isOddLetter c = false) :
      ∀ c ∈ optText f part, isOddLetter c = false := by
    cases part with
    | none => simp
    | some a => exact h a rfl
  have hjoin {pieces : List (List Char)}
      (h : ∀ piece ∈ pieces, ∀ c ∈ piece, isOddLetter c = false) :
      ∀ c ∈ joinWith ['.'] pieces, isOddLetter c = false := by
    intro c hc
    rcases mem_joinWith hc with hdot | ⟨piece, hpiece, hc⟩
    · obtain rfl := List.mem_singleton.1 hdot
      decide
    · exact h piece hpiece c hc
  simp only [text, List.forall_mem_append]
  refine ⟨hopt fun n hn => ?_, hjoin fun n hn => (s.release_isNumeral n hn).not_isOddLetter,
    hopt fun x hx => ?_, hopt fun n hn => ?_, hopt fun n hn => ?_, hopt fun segments hs => ?_⟩
  · exact List.forall_mem_append.2 ⟨(s.epoch_pos n hn).1.not_isOddLetter, by simp [isOddLetter]⟩
  · obtain ⟨hname, hx⟩ := s.pre_isNumeral x hx
    have hnames : ∀ name ∈ [['a'], ['b'], ['r', 'c']], ∀ c ∈ name, isOddLetter c = false := by
      simp [isOddLetter]
    exact List.forall_mem_append.2 ⟨hnames _ hname, hx.not_isOddLetter⟩
  · exact List.forall_mem_append.2 ⟨by simp [isOddLetter], (s.post_isNumeral n hn).not_isOddLetter⟩
  · exact List.forall_mem_append.2 ⟨by simp [isOddLetter], (s.dev_isNumeral n hn).not_isOddLetter⟩
  · refine List.forall_mem_cons.2 ⟨by decide, hjoin fun segment hsegment c hc => ?_⟩
    have hrun := (s.label_runs segments hs).2 segment hsegment
    exact not_isOddLetter_of_isCanonicalChar (hrun.2 c hc)

/-- The segments of the label stand in the normal text. -/
lemma mem_text_of_mem_label {segment : List Char} (hsegment : segment ∈ v.label) {c : Char}
    (hc : c ∈ segment) : c ∈ v.text := by
  have hne : v.label ≠ [] := List.ne_nil_of_mem hsegment
  have hjoin : c ∈ joinWith ['.'] v.label := mem_joinWith_of_mem hsegment hc
  simp [text, labelText?, hne, hjoin]

/-- **Every version that is read has a normal text in canonical shape**, where the segments of the
label may have odd letters besides the canonical characters.  The shape is one over ASCII exactly if
no odd letter is written in the label. -/
theorem canonical_of_read? {cs : List Char} (h : read? cs = some v) :
    ∃ parts, ∃ l : Layout parts, l.text = cs ∧ pattern.first? cs = some parts ∧
      Canonical (fun c => isCanonicalChar c || isOddLetter c) v.text ∧
      (Canonical isCanonicalChar v.text ↔
        ∀ label ∈ parts.label, ∀ c ∈ label, isOddLetter c = false) := by
  have hnormal := normal_of_read? h
  obtain ⟨parts, hparts, hv⟩ := Option.bind_eq_some_iff.1 h
  obtain ⟨l, hl⟩ := readsAll_pattern.of_first? hparts
  refine ⟨parts, l, hl, hparts, ⟨hnormal.shape ?_, hnormal.text_shape _⟩, ?_⟩
  · intro segment hsegment c hc
    exact (Bool.or_eq_true _ _).mpr (hnormal.isCanonicalChar_or hsegment hc)
  constructor
  · rintro ⟨s, hs⟩ label hlabel c hc
    by_contra hodd
    rw [Bool.not_eq_false] at hodd
    obtain ⟨segment, hsegment, hc⟩ := (exists_odd_label_iff hv hodd).2 ⟨label, hlabel, hc⟩
    have hplain := s.not_isOddLetter c (hs ▸ mem_text_of_mem_label hsegment hc)
    simp [hodd] at hplain
  · intro hplain
    refine ⟨hnormal.shape fun segment hsegment c hc => ?_, hnormal.text_shape _⟩
    refine (hnormal.isCanonicalChar_or hsegment hc).resolve_right fun hodd => ?_
    obtain ⟨label, hlabel, hc⟩ := (exists_odd_label_iff hv hodd).1 ⟨segment, hsegment, hc⟩
    simp [hplain label hlabel c hc] at hodd

/-- A version whose label has no odd letter. -/
theorem canonical_of_candidate : ∃ v, read? "V01!1.02-RC_3+Ubuntu_1".toList = some v ∧
    String.ofList v.text = "1!1.2rc3+ubuntu.1" ∧
    ∃ parts, ∃ l : Layout parts, l.text = "V01!1.02-RC_3+Ubuntu_1".toList ∧
      pattern.first? "V01!1.02-RC_3+Ubuntu_1".toList = some parts ∧
      Canonical (fun c => isCanonicalChar c || isOddLetter c) v.text ∧
      (Canonical isCanonicalChar v.text ↔
        ∀ label ∈ parts.label, ∀ c ∈ label, isOddLetter c = false) := by
  have h : read? "V01!1.02-RC_3+Ubuntu_1".toList =
      some ⟨1, 1, [2], some (.candidate, 3), none, none,
        [['u', 'b', 'u', 'n', 't', 'u'], ['1']]⟩ := by cbv
  exact ⟨_, h, by cbv, canonical_of_read? h⟩

/-- A version whose label is an odd letter: its normal text is not in canonical shape over ASCII. -/
theorem not_canonical_of_kelvin : ∃ v, read? "1.0+\u212a".toList = some v ∧
    String.ofList v.text = "1.0+\u212a" ∧ ¬ Canonical isCanonicalChar v.text := by
  have h : read? "1.0+\u212a".toList = some ⟨0, 1, [0], none, none, none, [['\u212a']]⟩ := by cbv
  refine ⟨_, h, by cbv, ?_⟩
  rintro ⟨s, hs⟩
  have hmem : '\u212a' ∈ s.text := hs ▸ mem_text_of_mem_label List.mem_cons_self List.mem_cons_self
  exact absurd (s.not_isOddLetter _ hmem) (by decide)

end ImageTags.Pep440
