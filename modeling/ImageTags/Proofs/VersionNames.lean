import Mathlib.Data.List.Infix
import ImageTags.Proofs.Ascii
import ImageTags.Proofs.Ways
import ImageTags.Version.Pep440

/-!
# Parts of a version that have a name

A pre-release, a post-release and a development release are each a name between optional separators,
with a number that may be missing.  Names start alike and separators can belong to the part before
them or after, so such a part can be found in several ways.  The first way is the best one, for two
reasons: a shorter name leaves a letter that nothing can start with (`isLeftOver`), and what may
follow a number can do without a separator and the digits behind it (`Guarded`).

* `takeNamed?` — a part with a name, taken as it comes.
* `Guarded`, `Lettered` — what may follow such a part.
* **`best_named`** — no other way to find the part is of more use.
* **`TakenBy.first?_then`** — the pattern goes on behind what was taken.
-/

namespace ImageTags.Pep440

open Text Ways

/-! ## Letters -/

/-- Whether a character counts as a Latin letter. -/
def isLetter (c : Char) : Bool := (plainLetter c).isLower

/-- What counts as a letter is an ASCII letter or one of two others. -/
lemma isLetter_iff {c : Char} :
    isLetter c = true ↔ c.isUpper = true ∨ c.isLower = true ∨ c = 'ſ' ∨ c = '\u212a' := by
  by_cases hs : c = 'ſ'
  · subst hs; decide
  by_cases hk : c = '\u212a'
  · subst hk; decide
  simp only [isLetter, plainLetter, hs, hk, if_false, or_false]
  by_cases hupper : c.isUpper = true
  · have hrange := isUpper_iff.1 hupper
    simp only [hupper, true_or, iff_true]
    rw [isLower_iff, toNat_toLower hupper]
    omega
  · rw [toLower_of_not_isUpper hupper]
    simp [hupper]

lemma isLetter_range {c : Char} (h : isLetter c = true) :
    (65 ≤ c.toNat ∧ c.toNat ≤ 90) ∨ (97 ≤ c.toNat ∧ c.toNat ≤ 122) ∨ c.toNat = 383 ∨
      c.toNat = 8490 := by
  rcases isLetter_iff.1 h with h | h | rfl | rfl
  · exact Or.inl (isUpper_iff.1 h)
  · exact Or.inr (Or.inl (isLower_iff.1 h))
  · decide
  · decide

lemma not_isDigit_of_isLetter {c : Char} (h : isLetter c = true) : c.isDigit = false := by
  have hrange := isLetter_range h
  rw [← Bool.not_eq_true, isDigit_iff]
  omega

lemma not_isBlank_of_isLetter {c : Char} (h : isLetter c = true) : isBlank c = false := by
  have hrange := isLetter_range h
  rw [← Bool.not_eq_true, isBlank_iff]
  omega

lemma isLetter_of_isVersionLetter {c : Char} (h : isVersionLetter c = true) :
    isLetter c = true := by
  rw [isLetter, of_decide_eq_true h]
  rfl

lemma not_isBlank_of_isDigit {c : Char} (h : c.isDigit = true) : isBlank c = false := by
  have hrange := isDigit_iff.1 h
  rw [← Bool.not_eq_true, isBlank_iff]
  omega

lemma isSeparator_iff {c : Char} : isSeparator c = true ↔ c = '-' ∨ c = '_' ∨ c = '.' := by
  simp [isSeparator, or_assoc]

/-- A separator is neither a letter nor a digit nor a blank. -/
lemma of_isSeparator {c : Char} (h : isSeparator c = true) :
    isLetter c = false ∧ c.isDigit = false ∧ isBlank c = false ∧ c ≠ '+' := by
  rcases isSeparator_iff.1 h with rfl | rfl | rfl <;> decide

lemma not_isSeparator_of_isLetter {c : Char} (h : isLetter c = true) : isSeparator c = false := by
  rw [← Bool.not_eq_true]
  intro hs
  simp [(of_isSeparator hs).1] at h

lemma not_isSeparator_of_isDigit {c : Char} (h : c.isDigit = true) : isSeparator c = false := by
  rw [← Bool.not_eq_true]
  intro hs
  simp [(of_isSeparator hs).2.1] at h

/-! ## Names -/

/-- A name is found at the start of a text if the start is the name in any case. -/
lemma spanName?_eq_some_iff {name cs word rest : List Char} :
    spanName? name cs = some (word, rest) ↔ cs = word ++ rest ∧ word.map plainLetter = name := by
  induction name generalizing cs word with
  | nil =>
    simp only [spanName?, Option.some.injEq, Prod.mk.injEq, List.map_eq_nil_iff]
    constructor
    · rintro ⟨rfl, rfl⟩
      exact ⟨rfl, rfl⟩
    · rintro ⟨rfl, rfl⟩
      exact ⟨rfl, rfl⟩
  | cons n ns ih =>
    cases cs with
    | nil =>
      simp only [spanName?, reduceCtorEq, false_iff, not_and]
      intro h hmap
      obtain ⟨rfl, -⟩ := List.append_eq_nil_iff.1 h.symm
      simp at hmap
    | cons c cs =>
      rw [spanName?]
      by_cases hc : plainLetter c = n
      · rw [if_pos hc, Option.map_eq_some_iff]
        constructor
        · rintro ⟨⟨word', rest'⟩, hspan, heq⟩
          obtain ⟨rfl, rfl⟩ := Prod.mk.inj heq
          obtain ⟨rfl, rfl⟩ := ih.1 hspan
          exact ⟨rfl, by rw [List.map_cons, hc]⟩
        · rintro ⟨happend, hmap⟩
          cases word with
          | nil => simp at hmap
          | cons d word =>
            obtain ⟨rfl, rfl⟩ := List.cons_eq_cons.1 happend
            exact ⟨(word, rest), ih.2 ⟨rfl, (List.cons.inj hmap).2⟩, rfl⟩
      · rw [if_neg hc]
        simp only [reduceCtorEq, false_iff, not_and]
        intro happend hmap
        cases word with
        | nil => simp at hmap
        | cons d word =>
          obtain ⟨rfl, rfl⟩ := List.cons_eq_cons.1 happend
          exact hc (List.cons.inj hmap).1

/-- The letters that a shorter name leaves over where a longer one was meant. -/
def leftOver : List Char := ['c', 'e', 'l', 'v']

/-- Whether a character counts as a letter that is left over. -/
def isLeftOver (c : Char) : Bool := leftOver.contains (plainLetter c)

lemma isLetter_of_isLeftOver {c : Char} (h : isLeftOver c = true) : isLetter c = true := by
  have hmem : plainLetter c ∈ leftOver := by simpa [isLeftOver] using h
  have hall : leftOver.all Char.isLower = true := by decide
  exact List.all_eq_true.1 hall _ hmem

/-- Where both names are found, the second one leaves over a letter of the first. -/
def Outdoes (name name' : List Char) : Prop :=
  ¬ name <+: name' ∧
    (name' <+: name → (name.drop name'.length).head?.any leftOver.contains = true)

instance (name name' : List Char) : Decidable (Outdoes name name') :=
  inferInstanceAs (Decidable (_ ∧ _))

lemma startsWith_of_outdoes {name name' cs word rest word' rest' : List Char}
    (h : Outdoes name name') (hname : spanName? name cs = some (word, rest))
    (hname' : spanName? name' cs = some (word', rest')) : StartsWith isLeftOver rest' := by
  obtain ⟨rfl, rfl⟩ := spanName?_eq_some_iff.1 hname
  obtain ⟨happend, rfl⟩ := spanName?_eq_some_iff.1 hname'
  have hplain : word.map plainLetter ++ rest.map plainLetter =
      word'.map plainLetter ++ rest'.map plainLetter := by
    rw [← List.map_append, happend, List.map_append]
  have hprefix : word'.map plainLetter <+: word.map plainLetter :=
    (List.prefix_or_prefix_of_prefix (List.prefix_append _ _) ⟨_, hplain.symm⟩).resolve_left h.1
  obtain ⟨c, hhead, hc⟩ := (Option.any_eq_true _ _).1 (h.2 hprefix)
  obtain ⟨t, ht⟩ := hprefix
  rw [← ht, List.drop_left] at hhead
  rw [← ht, List.append_assoc, List.append_cancel_left_eq] at hplain
  obtain ⟨t, rfl⟩ := List.head?_eq_some_iff.1 hhead
  cases rest' with
  | nil => simp at hplain
  | cons d rest' =>
    obtain ⟨rfl, -⟩ := List.cons_eq_cons.1 hplain
    simpa [isLeftOver] using hc

/-- The first of some names that is found at the start of a text, and what follows it. -/
def takeName? (names : List (List Char)) (cs : List Char) : Option (List Char × List Char) :=
  names.findSome? (spanName? · cs)

lemma head?_anyName (names : List (List Char)) (cs : List Char) :
    (anyName names cs).head? = takeName? names cs :=
  List.head?_filterMap

lemma anyName_eq_nil {names : List (List Char)} {cs : List Char}
    (h : takeName? names cs = none) : anyName names cs = [] :=
  List.head?_eq_none_iff.1 ((head?_anyName names cs).trans h)

lemma exists_of_takeName? {names : List (List Char)} {cs word rest : List Char}
    (h : takeName? names cs = some (word, rest)) :
    ∃ name ∈ names, spanName? name cs = some (word, rest) :=
  List.exists_of_findSome?_eq_some h

lemma pairwise_anyName {names : List (List Char)} (hnames : names.Pairwise Outdoes)
    (cs : List Char) : (anyName names cs).Pairwise fun _ y => StartsWith isLeftOver y.2 := by
  rw [anyName, List.pairwise_filterMap]
  exact hnames.imp fun hoo x hx y hy => startsWith_of_outdoes hoo hx hy

/-- The first name that is found is best if what follows does not start with a letter that is left
over. -/
lemma best_anyName {names : List (List Char)} (hnames : names.Pairwise Outdoes)
    {ok : List Char → List Char → Prop}
    (hok : ∀ word rest, StartsWith isLeftOver rest → ¬ ok word rest) {cs word rest : List Char}
    (h : takeName? names cs = some (word, rest)) : Best (anyName names) ok cs word rest := by
  rw [← head?_anyName, List.head?_eq_some_iff] at h
  obtain ⟨others, hothers⟩ := h
  have hpairs := pairwise_anyName hnames cs
  rw [hothers, List.pairwise_cons] at hpairs
  exact ⟨others, hothers, fun x hx hx' => absurd hx' (hok _ _ (hpairs.1 x hx))⟩

/-- What the names of a part have in common. -/
structure WellNamed (names : List (List Char)) : Prop where
  ne_nil : [] ∉ names
  isLower : ∀ name ∈ names, name.all Char.isLower = true
  pairwise : names.Pairwise Outdoes

lemma wellNamed_phaseNames : WellNamed phaseNames := ⟨by decide, by decide, by decide⟩

lemma wellNamed_postNames : WellNamed postNames := ⟨by decide, by decide, by decide⟩

lemma wellNamed_devNames : WellNamed devNames := ⟨by decide, by decide, by decide⟩

lemma WellNamed.exists_cons {names : List (List Char)} (h : WellNamed names) {name : List Char}
    (hname : name ∈ names) : ∃ c cs, name = c :: cs ∧ c.isLower = true := by
  cases name with
  | nil => exact absurd hname h.ne_nil
  | cons c cs => exact ⟨c, cs, rfl, List.all_eq_true.1 (h.isLower _ hname) c List.mem_cons_self⟩

/-- No name is found where there is no letter. -/
lemma takeName?_eq_none {names : List (List Char)} (hnames : WellNamed names) {cs : List Char}
    (h : ¬ StartsWith isLetter cs) : takeName? names cs = none := by
  rw [takeName?, List.findSome?_eq_none_iff]
  intro name hname
  obtain ⟨n, ns, rfl, hlower⟩ := hnames.exists_cons hname
  cases cs with
  | nil => rfl
  | cons c cs =>
    rw [spanName?, if_neg]
    rintro rfl
    exact h (by simpa [isLetter] using hlower)

/-- A name is found where it is written, unless a letter follows that makes it a longer one. -/
lemma takeName?_append {names : List (List Char)} (hnames : WellNamed names)
    {word rest : List Char} (hword : word.map plainLetter ∈ names)
    (hrest : ¬ StartsWith isLeftOver rest) :
    takeName? names (word ++ rest) = some (word, rest) := by
  have hmem : (word, rest) ∈ anyName names (word ++ rest) :=
    List.mem_filterMap.2 ⟨_, hword, spanName?_eq_some_iff.2 ⟨rfl, rfl⟩⟩
  have hpairs := pairwise_anyName hnames.pairwise (word ++ rest)
  rw [← head?_anyName]
  cases hany : anyName names (word ++ rest) with
  | nil => simp [hany] at hmem
  | cons x others =>
    rw [hany] at hmem hpairs
    rcases List.mem_cons.1 hmem with rfl | hmem
    · rfl
    · exact absurd ((List.pairwise_cons.1 hpairs).1 _ hmem) hrest

/-! ## Numbers behind a separator -/

/-- A text without a separator at its start. -/
def dropSeparator (cs : List Char) : List Char := dropFirstIf isSeparator cs

lemma dropSeparator_cons {c : Char} (hc : isSeparator c = true) (cs : List Char) :
    dropSeparator (c :: cs) = cs := by
  rw [dropSeparator, dropFirstIf, if_pos hc]

lemma dropSeparator_eq_self {cs : List Char} (h : ¬ StartsWith isSeparator cs) :
    dropSeparator cs = cs := by
  cases cs with
  | nil => rfl
  | cons c cs => rw [dropSeparator, dropFirstIf, if_neg (by simpa using h)]

/-- What may follow a number: it is not more of the number, not what a name leaves over, and it can
do without a separator and the digits behind it. -/
structure Guarded (ok : List Char → Prop) : Prop where
  digit : ∀ {cs}, StartsWith Char.isDigit cs → ¬ ok cs
  letter : ∀ {cs}, StartsWith isLeftOver cs → ¬ ok cs
  skip : ∀ {c cs}, isSeparator c = true → ok (c :: cs) → ok (cs.dropWhile Char.isDigit)

lemma not_startsWith_isDigit_of_isSeparator {c : Char} (hc : isSeparator c = true)
    (cs : List Char) : ¬ StartsWith Char.isDigit (c :: cs) := by
  simp [(of_isSeparator hc).2.1]

/-- A separator and a number are both best taken, and as much of the number as there is. -/
lemma best_digits {α : Type} {ok : List Char → Prop} (h : Guarded ok)
    (f : Option (List Char) → α) (cs : List Char) :
    Best (opt (one isSeparator) >>= fun _ => opt (many1 Char.isDigit) >>= fun digits =>
        pure (f digits)) (fun _ rest => ok rest) cs
      (f (run? Char.isDigit (dropSeparator cs))) ((dropSeparator cs).dropWhile Char.isDigit) := by
  have hrun (cs : List Char) : Best (opt (many1 Char.isDigit)) (fun _ rest => ok rest) cs
      (run? Char.isDigit cs) (cs.dropWhile Char.isDigit) :=
    best_opt_many1 (fun _ _ hrest => h.digit hrest) cs
  by_cases hs : StartsWith isSeparator cs
  · obtain ⟨c, cs, rfl, hsep⟩ := startsWith_iff.1 hs
    rw [dropSeparator_cons hsep]
    refine Best.bind (Best.opt (best_one hsep cs) ?_) (Best.map (hrun cs))
    -- if the separator belongs to what follows, that can do without it
    rintro ⟨x, hx, hok⟩
    have hnone := not_startsWith_isDigit_of_isSeparator hsep cs
    rw [map_apply, opt_of_not_matches (many1_eq_nil hnone), List.map_singleton,
      List.mem_singleton] at hx
    subst hx
    obtain ⟨others, hothers, -⟩ := hrun cs
    refine ⟨(f (run? Char.isDigit cs), cs.dropWhile Char.isDigit), ?_, h.skip hsep hok⟩
    rw [map_apply, hothers]
    exact List.mem_cons_self
  · rw [dropSeparator_eq_self hs]
    exact Best.bind (best_opt_none (one_eq_nil hs)) (Best.map (hrun cs))

/-! ## Parts with a name -/

/-- A part with a name, taken as it comes: the separators before and after the name if they are
there, the first name that is found, and all digits. -/
def takeNamed? (names : List (List Char)) (cs : List Char) :
    Option ((List Char × Option (List Char)) × List Char) :=
  (takeName? names (dropSeparator cs)).map fun (word, rest) =>
    ((word, run? Char.isDigit (dropSeparator rest)),
      (dropSeparator rest).dropWhile Char.isDigit)

/-- A character that can be left out is taken if nothing else can start with it. -/
lemma opt_one_bind {α : Type} {p : Char → Bool} {next : Ways α}
    (h : ∀ c cs, p c = true → next (c :: cs) = []) (cs : List Char) :
    (opt (one p) >>= fun _ => next) cs = next (dropFirstIf p cs) := by
  rw [bind_apply]
  cases cs with
  | nil => simp [opt, one, dropFirstIf]
  | cons c cs =>
    by_cases hc : p c = true
    · simp [opt, one_cons, dropFirstIf, hc, h c cs hc]
    · simp [opt, one_cons, dropFirstIf, hc]

lemma named_apply {names : List (List Char)} (hnames : WellNamed names) (cs : List Char) :
    named names cs = (anyName names >>= fun word => opt (one isSeparator) >>= fun _ =>
      opt (many1 Char.isDigit) >>= fun digits => pure (word, digits)) (dropSeparator cs) := by
  refine opt_one_bind (fun c cs hc => bind_eq_nil (anyName_eq_nil ?_)) cs
  exact takeName?_eq_none hnames (by simp [(of_isSeparator hc).1])

lemma named_eq_nil {names : List (List Char)} (hnames : WellNamed names) {cs : List Char}
    (h : takeNamed? names cs = none) : named names cs = [] := by
  rw [named_apply hnames]
  exact bind_eq_nil (anyName_eq_nil (Option.map_eq_none_iff.1 h))

/-- **A part with a name is best taken as it comes.** -/
theorem best_named {names : List (List Char)} (hnames : WellNamed names) {ok : List Char → Prop}
    (hok : Guarded ok) {cs rest : List Char} {x : List Char × Option (List Char)}
    (h : takeNamed? names cs = some (x, rest)) :
    Best (named names) (fun _ rest => ok rest) cs x rest := by
  obtain ⟨⟨word, rest'⟩, hname, heq⟩ := Option.map_eq_some_iff.1 h
  obtain ⟨rfl, rfl⟩ := Prod.mk.inj heq
  refine Best.congr (Best.bind (best_anyName hnames.pairwise ?_ hname) ?_)
    (named_apply hnames cs)
  · -- a shorter name leaves a letter, before which there is neither a separator nor a digit
    rintro word rest hrest ⟨x, hx, hx'⟩
    obtain ⟨c, rest, rfl, hleft⟩ := startsWith_iff.1 hrest
    have hletter := isLetter_of_isLeftOver hleft
    rw [bind_apply, opt_of_not_matches, List.flatMap_singleton, map_apply, opt_of_not_matches,
      List.map_singleton, List.mem_singleton] at hx
    · subst hx
      exact hok.letter (by simpa using hleft) hx'
    · exact many1_eq_nil (by simp [not_isDigit_of_isLetter hletter])
    · exact one_eq_nil (by simp [not_isSeparator_of_isLetter hletter])
  · exact best_digits hok (fun digits => (word, digits)) rest'

/-! ## Optional parts -/

section Taking

variable {α β γ : Type}

/-- What has been found if an optional part is taken from a text. -/
def found (take? : List Char → Option (α × List Char)) (cs : List Char) : Option α :=
  (take? cs).map Prod.fst

/-- What is left if an optional part is taken from a text. -/
def left (take? : List Char → Option (α × List Char)) (cs : List Char) : List Char :=
  ((take? cs).map Prod.snd).getD cs

lemma left_of_some {take? : List Char → Option (α × List Char)} {cs rest : List Char} {a : α}
    (h : take? cs = some (a, rest)) : left take? cs = rest := by
  rw [left, h]
  rfl

lemma left_of_none {take? : List Char → Option (α × List Char)} {cs : List Char}
    (h : take? cs = none) : left take? cs = cs := by
  rw [left, h]
  rfl

lemma found_of_some {take? : List Char → Option (α × List Char)} {cs rest : List Char} {a : α}
    (h : take? cs = some (a, rest)) : found take? cs = some a := by
  rw [found, h]
  rfl

lemma found_of_none {take? : List Char → Option (α × List Char)} {cs : List Char}
    (h : take? cs = none) : found take? cs = none := by
  rw [found, h]
  rfl

/-- A pattern is best taken as `take?` does it, and where it is there it cannot be left out. -/
structure TakenBy (w : Ways α) (take? : List Char → Option (α × List Char))
    (ok : List Char → Prop) : Prop where
  missing : ∀ {cs}, take? cs = none → w cs = []
  best : ∀ {cs a rest}, take? cs = some (a, rest) → Best w (fun _ rest => ok rest) cs a rest
  needed : ∀ {cs a rest}, take? cs = some (a, rest) → ¬ ok cs

lemma TakenBy.best_opt {w : Ways α} {take? : List Char → Option (α × List Char)}
    {ok : List Char → Prop} (h : TakenBy w take? ok) (cs : List Char) :
    Best (opt w) (fun _ rest => ok rest) cs (found take? cs) (left take? cs) := by
  cases htake : take? cs with
  | none =>
    rw [found_of_none htake, left_of_none htake]
    exact best_opt_none (h.missing htake)
  | some x =>
    rw [found_of_some htake, left_of_some htake]
    exact Best.opt (h.best htake) fun hnone => absurd hnone (h.needed htake)

/-- **An optional part is taken as it comes, and the rest of the pattern goes on from there.** -/
theorem TakenBy.first?_then {w : Ways α} {take? : List Char → Option (α × List Char)}
    {tail : Ways β} (h : TakenBy w take? tail.Matches) (f : Option α → β → γ) (cs : List Char) :
    (opt w >>= fun a => tail >>= fun b => pure (f a b)).first? cs =
      (tail.first? (left take? cs)).map (f (found take? cs)) :=
  (h.best_opt cs).first?_then

/-- A part is missing where the rest of the pattern can go on at once. -/
lemma TakenBy.first?_missing {w : Ways α} {take? : List Char → Option (α × List Char)}
    {tail : Ways β} (h : TakenBy w take? tail.Matches) (f : Option α → β → γ) {cs : List Char}
    {b : β} (hb : tail.first? cs = some b) :
    (opt w >>= fun a => tail >>= fun b => pure (f a b)).first? cs = some (f none b) := by
  have htake : take? cs = none := by
    rw [Option.eq_none_iff_forall_ne_some]
    rintro ⟨a, rest⟩ hsome
    exact h.needed hsome (matches_of_first? hb)
  rw [h.first?_then, left_of_none htake, found_of_none htake, hb]
  rfl

lemma TakenBy.matches_then {w : Ways α} {take? : List Char → Option (α × List Char)}
    {tail : Ways β} (h : TakenBy w take? tail.Matches) (f : Option α → β → γ) (cs : List Char) :
    (opt w >>= fun a => tail >>= fun b => pure (f a b)).Matches cs ↔
      tail.Matches (left take? cs) := by
  rw [← not_iff_not, ← first?_eq_none_iff, ← first?_eq_none_iff, h.first?_then,
    Option.map_eq_none_iff]

end Taking

/-! ## Parts with a name, one before the other -/

/-- What may follow a number and has a letter behind each separator it starts with. -/
structure Lettered (ok : List Char → Prop) : Prop where
  digit : ∀ {cs}, StartsWith Char.isDigit cs → ¬ ok cs
  letter : ∀ {cs}, StartsWith isLeftOver cs → ¬ ok cs
  separator : ∀ {c cs}, isSeparator c = true → ok (c :: cs) → StartsWith isLetter cs ∧ ok cs

lemma not_startsWith_isDigit_of_isLetter {cs : List Char} (h : StartsWith isLetter cs) :
    ¬ StartsWith Char.isDigit cs := by
  obtain ⟨c, cs, rfl, hletter⟩ := startsWith_iff.1 h
  simp [not_isDigit_of_isLetter hletter]

lemma not_startsWith_isSeparator_of_isLetter {cs : List Char} (h : StartsWith isLetter cs) :
    ¬ StartsWith isSeparator cs := by
  obtain ⟨c, cs, rfl, hletter⟩ := startsWith_iff.1 h
  simp [not_isSeparator_of_isLetter hletter]

lemma not_startsWith_isSeparator_of_isDigit {cs : List Char} (h : StartsWith Char.isDigit cs) :
    ¬ StartsWith isSeparator cs := by
  obtain ⟨c, cs, rfl, hdigit⟩ := startsWith_iff.1 h
  simp [not_isSeparator_of_isDigit hdigit]

lemma startsWith_isLetter_of_isLeftOver {cs : List Char} (h : StartsWith isLeftOver cs) :
    StartsWith isLetter cs := by
  obtain ⟨c, hc, hleft⟩ := h
  exact ⟨c, hc, isLetter_of_isLeftOver hleft⟩

lemma Lettered.guarded {ok : List Char → Prop} (h : Lettered ok) : Guarded ok where
  digit := h.digit
  letter := h.letter
  skip hc hok := by
    obtain ⟨hletter, hok⟩ := h.separator hc hok
    rwa [dropWhile_eq_self (not_startsWith_isDigit_of_isLetter hletter)]

lemma takeNamed?_eq_none {names : List (List Char)} (hnames : WellNamed names) {cs : List Char}
    (h : ¬ StartsWith isLetter (dropSeparator cs)) : takeNamed? names cs = none := by
  rw [takeNamed?, takeName?_eq_none hnames h]
  rfl

/-- A part with a name is found behind a separator as it is without one. -/
lemma takeNamed?_cons {names : List (List Char)} {c : Char} {cs : List Char}
    (hc : isSeparator c = true) (hcs : StartsWith isLetter cs) :
    takeNamed? names (c :: cs) = takeNamed? names cs := by
  rw [takeNamed?, takeNamed?, dropSeparator_cons hc,
    dropSeparator_eq_self (not_startsWith_isSeparator_of_isLetter hcs)]

/-- A part with a name in front keeps a letter behind each separator. -/
lemma Lettered.named {ok : List Char → Prop} (h : Lettered ok) {names : List (List Char)}
    (hnames : WellNamed names) (hfirst : ∀ name ∈ names, name.head?.any leftOver.contains = false) :
    Lettered fun cs => ok (left (takeNamed? names) cs) where
  digit {cs} hcs := by
    rw [left_of_none (takeNamed?_eq_none hnames fun hletter => ?_)]
    · exact h.digit hcs
    · rw [dropSeparator_eq_self (not_startsWith_isSeparator_of_isDigit hcs)] at hletter
      exact not_startsWith_isDigit_of_isLetter hletter hcs
  letter {cs} hcs := by
    have hletter := startsWith_isLetter_of_isLeftOver hcs
    have hname : takeName? names cs = none := by
      obtain ⟨c, cs, rfl, hleft⟩ := startsWith_iff.1 hcs
      rw [takeName?, List.findSome?_eq_none_iff]
      intro name hname
      obtain ⟨n, ns, rfl, -⟩ := hnames.exists_cons hname
      rw [spanName?, if_neg]
      rintro rfl
      exact absurd ((hfirst _ hname).symm.trans hleft) (by decide)
    rw [left_of_none]
    · exact h.letter hcs
    · rw [takeNamed?, dropSeparator_eq_self (not_startsWith_isSeparator_of_isLetter hletter), hname]
      rfl
  separator {c cs} hc hok := by
    by_cases hletter : StartsWith isLetter cs
    · refine ⟨hletter, ?_⟩
      cases htake : takeNamed? names cs with
      | some x =>
        have htake' := (takeNamed?_cons hc hletter).trans htake
        rw [left_of_some htake'] at hok
        rwa [left_of_some htake]
      | none =>
        have htake' := (takeNamed?_cons hc hletter).trans htake
        rw [left_of_none htake'] at hok
        rw [left_of_none htake]
        exact (h.separator hc hok).2
    · have htake : takeNamed? names (c :: cs) = none :=
        takeNamed?_eq_none hnames (by rwa [dropSeparator_cons hc])
      rw [left_of_none htake] at hok
      exact absurd (h.separator hc hok).1 hletter

/-- Where a part with a name is there, no part with other names can be followed, if those are clear
of the names of the first one. -/
lemma Lettered.not_left_named {ok : List Char → Prop} (h : Lettered ok)
    {names names' : List (List Char)}
    (hclear : ∀ name ∈ names, ∀ name' ∈ names', Outdoes name name') {cs : List Char}
    (hcs : takeNamed? names cs ≠ none) (hok : ¬ ok cs) :
    ¬ ok (left (takeNamed? names') cs) := by
  cases htake : takeNamed? names' cs with
  | none => rwa [left_of_none htake]
  | some x =>
    obtain ⟨⟨word, rest⟩, hword, -⟩ := Option.map_eq_some_iff.1
      (Option.ne_none_iff_exists'.1 hcs).choose_spec
    obtain ⟨⟨word', rest'⟩, hword', rfl⟩ := Option.map_eq_some_iff.1 htake
    obtain ⟨name, hname, hspan⟩ := exists_of_takeName? hword
    obtain ⟨name', hname', hspan'⟩ := exists_of_takeName? hword'
    have hleft := startsWith_of_outdoes (hclear name hname name' hname') hspan hspan'
    have hletter := startsWith_isLetter_of_isLeftOver hleft
    rw [left_of_some htake, dropSeparator_eq_self (not_startsWith_isSeparator_of_isLetter hletter),
      dropWhile_eq_self (not_startsWith_isDigit_of_isLetter hletter)]
    exact h.letter hleft

/-- A part with a name of which only the digits count. -/
def takeDigits? (names : List (List Char)) (cs : List Char) :
    Option (Option (List Char) × List Char) :=
  (takeNamed? names cs).map fun x => (x.1.2, x.2)

lemma left_takeDigits? (names : List (List Char)) (cs : List Char) :
    left (takeDigits? names) cs = left (takeNamed? names) cs := by
  rw [left, left, takeDigits?, Option.map_map]
  rfl

lemma takenBy_named {names : List (List Char)} (hnames : WellNamed names) {ok : List Char → Prop}
    (hok : Guarded ok) (hneeded : ∀ {cs}, takeNamed? names cs ≠ none → ¬ ok cs) :
    TakenBy (named names) (takeNamed? names) ok where
  missing h := named_eq_nil hnames h
  best h := best_named hnames hok h
  needed h := hneeded (by rw [h]; exact Option.some_ne_none _)

lemma takenBy_digits {names : List (List Char)} (hnames : WellNamed names)
    {ok : List Char → Prop} (hok : Guarded ok)
    (hneeded : ∀ {cs}, takeNamed? names cs ≠ none → ¬ ok cs) :
    TakenBy (named names >>= fun x => pure x.2) (takeDigits? names) ok where
  missing h := bind_eq_nil (named_eq_nil hnames (Option.map_eq_none_iff.1 h))
  best h := by
    obtain ⟨x, hx, heq⟩ := Option.map_eq_some_iff.1 h
    obtain ⟨rfl, rfl⟩ := Prod.mk.inj heq
    exact Best.map (best_named hnames hok hx)
  needed h := by
    obtain ⟨x, hx, -⟩ := Option.map_eq_some_iff.1 h
    exact hneeded (by rw [hx]; exact Option.some_ne_none _)

end ImageTags.Pep440
