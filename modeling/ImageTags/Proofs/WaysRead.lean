import ImageTags.Proofs.Ways

/-!
# The texts that a pattern reads

The ways of a pattern are listed in the order of a search.  When the order does not matter, a
pattern is a relation between what is found and the text that is read for it, and whatever follows
that text is left over.  Each combinator has its own relation, so the texts of a whole pattern are
known from those of its parts.

* `Ways.Reads` — the relation of a pattern that can stop before the end of a text.
* `Ways.ReadsAll` — the relation of a pattern that cannot.
* **`Ways.Reads.bind`**, **`Ways.Reads.bind_all`** — patterns one after the other.
* `Ways.Reads.opt`, `Ways.reads_many1`, `Ways.reads_separated` — parts that can be left out and
  repetitions.
-/

namespace ImageTags.Text.Ways

variable {α β : Type}

/-- A pattern finds `a` by reading a text that `R` allows for it, wherever that text stands. -/
def Reads (w : Ways α) (R : α → List Char → Prop) : Prop :=
  ∀ cs a rest, (a, rest) ∈ w cs ↔ ∃ text, cs = text ++ rest ∧ R a text

/-- A pattern finds `a` in a text that `R` allows for it, and leaves nothing. -/
def ReadsAll (w : Ways α) (R : α → List Char → Prop) : Prop :=
  ∀ cs a rest, (a, rest) ∈ w cs ↔ rest = [] ∧ R a cs

/-! ## Patterns one after the other -/

/-- The text of two patterns is a text of the first with one of the second behind it. -/
theorem Reads.bind {w : Ways α} {next : α → Ways β} {R : α → List Char → Prop}
    {S : α → β → List Char → Prop} (h : w.Reads R) (hnext : ∀ a, (next a).Reads (S a)) :
    (w >>= next).Reads fun b text => ∃ a t u, text = t ++ u ∧ R a t ∧ S a b u := by
  intro cs b rest
  rw [bind_apply, List.mem_flatMap]
  constructor
  · rintro ⟨⟨a, rest'⟩, hfirst, hsecond⟩
    obtain ⟨t, rfl, ht⟩ := (h _ _ _).1 hfirst
    obtain ⟨u, rfl, hu⟩ := (hnext _ _ _ _).1 hsecond
    exact ⟨t ++ u, (List.append_assoc ..).symm, a, t, u, rfl, ht, hu⟩
  · rintro ⟨text, rfl, a, t, u, rfl, ht, hu⟩
    refine ⟨(a, u ++ rest), (h _ _ _).2 ⟨t, List.append_assoc .., ht⟩, ?_⟩
    exact (hnext _ _ _ _).2 ⟨u, rfl, hu⟩

/-- A text that is read to its end is a text of the first pattern and all that follows it. -/
theorem Reads.bind_all {w : Ways α} {next : α → Ways β} {R : α → List Char → Prop}
    {S : α → β → List Char → Prop} (h : w.Reads R) (hnext : ∀ a, (next a).ReadsAll (S a)) :
    (w >>= next).ReadsAll fun b text => ∃ a t u, text = t ++ u ∧ R a t ∧ S a b u := by
  intro cs b rest
  rw [bind_apply, List.mem_flatMap]
  constructor
  · rintro ⟨⟨a, rest'⟩, hfirst, hsecond⟩
    obtain ⟨t, rfl, ht⟩ := (h _ _ _).1 hfirst
    obtain ⟨rfl, hu⟩ := (hnext _ _ _ _).1 hsecond
    exact ⟨rfl, a, t, rest', rfl, ht, hu⟩
  · rintro ⟨rfl, a, t, u, rfl, ht, hu⟩
    exact ⟨(a, u), (h _ _ _).2 ⟨t, rfl, ht⟩, (hnext _ _ _ _).2 ⟨rfl, hu⟩⟩

/-- What was found may be changed without a change of the texts. -/
lemma Reads.map {w : Ways α} {R : α → List Char → Prop} (h : w.Reads R) (f : α → β) :
    (w >>= fun a => pure (f a)).Reads fun b text => ∃ a, b = f a ∧ R a text := by
  intro cs b rest
  rw [map_apply, List.mem_map]
  constructor
  · rintro ⟨⟨a, rest'⟩, ha, heq⟩
    obtain ⟨rfl, rfl⟩ := Prod.mk.inj heq
    obtain ⟨text, rfl, htext⟩ := (h _ _ _).1 ha
    exact ⟨text, rfl, a, rfl, htext⟩
  · rintro ⟨text, rfl, a, rfl, htext⟩
    exact ⟨(a, rest), (h _ _ _).2 ⟨text, rfl, htext⟩, rfl⟩

lemma ReadsAll.map {w : Ways α} {R : α → List Char → Prop} (h : w.ReadsAll R) (f : α → β) :
    (w >>= fun a => pure (f a)).ReadsAll fun b text => ∃ a, b = f a ∧ R a text := by
  intro cs b rest
  rw [map_apply, List.mem_map]
  constructor
  · rintro ⟨⟨a, rest'⟩, ha, heq⟩
    obtain ⟨rfl, rfl⟩ := Prod.mk.inj heq
    obtain ⟨rfl, htext⟩ := (h _ _ _).1 ha
    exact ⟨rfl, a, rfl, htext⟩
  · rintro ⟨rfl, a, rfl, htext⟩
    exact ⟨(a, []), (h _ _ _).2 ⟨rfl, htext⟩, rfl⟩

lemma Reads.congr {w : Ways α} {R R' : α → List Char → Prop} (h : w.Reads R)
    (hR : ∀ a text, R a text ↔ R' a text) : w.Reads R' := by
  intro cs a rest
  simp only [h cs a rest, hR]

lemma ReadsAll.congr {w : Ways α} {R R' : α → List Char → Prop} (h : w.ReadsAll R)
    (hR : ∀ a text, R a text ↔ R' a text) : w.ReadsAll R' := by
  intro cs a rest
  rw [h cs a rest, hR]

lemma readsAll_atEnd : atEnd.ReadsAll fun _ text => text = [] := by
  intro cs a rest
  cases cs with
  | nil => simp [atEnd]
  | cons c cs => simp [atEnd]

/-- What counts is found in a text that is allowed for it. -/
lemma ReadsAll.of_first? {w : Ways α} {R : α → List Char → Prop} (h : w.ReadsAll R)
    {cs : List Char} {a : α} (ha : w.first? cs = some a) : R a cs := by
  obtain ⟨⟨a', rest⟩, hhead, rfl⟩ := Option.map_eq_some_iff.1 ha
  exact ((h cs a' rest).1 (List.mem_of_head? hhead)).2

/-- In a text that is allowed for something, something is found. -/
lemma ReadsAll.exists_first? {w : Ways α} {R : α → List Char → Prop} (h : w.ReadsAll R)
    {cs : List Char} {a : α} (ha : R a cs) : ∃ b, w.first? cs = some b := by
  have hmem : (a, []) ∈ w cs := (h cs a []).2 ⟨rfl, ha⟩
  refine Option.ne_none_iff_exists'.1 fun hnone => ?_
  exact first?_eq_none_iff.1 hnone (List.ne_nil_of_mem hmem)

/-! ## Parts that can be left out, and alternatives -/

/-- The texts of a part that can be left out. -/
def Optionally (R : α → List Char → Prop) : Option α → List Char → Prop
  | none, text => text = []
  | some a, text => R a text

/-- What is made of a part is the same if it is the same for every part with that text. -/
lemma Optionally.map_congr {R : α → List Char → Prop} {part : Option α} {text : List Char}
    (h : Optionally R part text) {f g : α → β} (hfg : ∀ a, R a text → f a = g a) :
    part.map f = part.map g := by
  cases part with
  | none => rfl
  | some a => exact congrArg some (hfg a h)

lemma Reads.opt {w : Ways α} {R : α → List Char → Prop} (h : w.Reads R) :
    (opt w).Reads (Optionally R) := by
  intro cs a rest
  rw [Ways.opt, List.mem_append, List.mem_map, List.mem_singleton]
  cases a with
  | none => simp [Optionally, eq_comm]
  | some a => simpa [Optionally] using h cs a rest

lemma Reads.either {w w' : Ways α} {R R' : α → List Char → Prop} (h : w.Reads R)
    (h' : w'.Reads R') : (either w w').Reads fun a text => R a text ∨ R' a text := by
  intro cs a rest
  rw [Ways.either, List.mem_append, h, h']
  constructor
  · rintro (⟨text, rfl, htext⟩ | ⟨text, rfl, htext⟩)
    · exact ⟨text, rfl, Or.inl htext⟩
    · exact ⟨text, rfl, Or.inr htext⟩
  · rintro ⟨text, rfl, htext | htext⟩
    · exact Or.inl ⟨text, rfl, htext⟩
    · exact Or.inr ⟨text, rfl, htext⟩

/-! ## Characters and repetitions -/

variable {s p : Char → Bool}

lemma reads_one : (one p).Reads fun c text => text = [c] ∧ p c = true := by
  intro cs a rest
  cases cs with
  | nil => simp [one]
  | cons c cs =>
    rw [one_cons]
    split
    · next hc =>
      rw [List.mem_singleton, Prod.mk.injEq]
      constructor
      · rintro ⟨rfl, rfl⟩
        exact ⟨[a], rfl, rfl, hc⟩
      · rintro ⟨text, heq, rfl, -⟩
        obtain ⟨rfl, rfl⟩ := List.cons.inj heq
        exact ⟨rfl, rfl⟩
    · next hc =>
      simp only [List.not_mem_nil, false_iff]
      rintro ⟨text, heq, rfl, ha⟩
      obtain ⟨rfl, rfl⟩ := List.cons.inj heq
      exact hc ha

lemma reads_many : (many p).Reads fun run text => text = run ∧ ∀ c ∈ run, p c = true := by
  intro cs run rest
  induction cs generalizing run with
  | nil =>
    constructor
    · intro h
      obtain ⟨rfl, rfl⟩ := Prod.mk.inj (List.mem_singleton.1 h)
      exact ⟨[], rfl, rfl, by simp⟩
    · rintro ⟨text, heq, rfl, -⟩
      obtain ⟨rfl, rfl⟩ := List.append_eq_nil_iff.1 heq.symm
      exact List.mem_singleton.2 rfl
  | cons c cs ih =>
    rw [many, List.mem_append, List.mem_singleton]
    constructor
    · rintro (h | h)
      · by_cases hc : p c = true
        · rw [if_pos hc] at h
          obtain ⟨⟨run', rest'⟩, hmem, heq⟩ := List.mem_map.1 h
          obtain ⟨rfl, rfl⟩ := Prod.mk.inj heq
          obtain ⟨text, rfl, rfl, hrun⟩ := (ih _).1 hmem
          exact ⟨c :: text, rfl, rfl, List.forall_mem_cons.2 ⟨hc, hrun⟩⟩
        · simp [hc] at h
      · obtain ⟨rfl, rfl⟩ := Prod.mk.inj h
        exact ⟨[], rfl, rfl, by simp⟩
    · rintro ⟨text, heq, rfl, hrun⟩
      cases text with
      | nil => exact Or.inr (by rw [heq, List.nil_append])
      | cons d text =>
        obtain ⟨rfl, rfl⟩ := List.cons.inj heq
        obtain ⟨hc, hrun⟩ := List.forall_mem_cons.1 hrun
        refine Or.inl ?_
        rw [if_pos hc]
        exact List.mem_map.2 ⟨(text, rest), (ih _).2 ⟨text, rfl, rfl, hrun⟩, rfl⟩

/-- A run of characters that pass a test, of which there is at least one. -/
def Run (p : Char → Bool) (run : List Char) : Prop := run ≠ [] ∧ ∀ c ∈ run, p c = true

lemma reads_many1 : (many1 p).Reads fun run text => text = run ∧ Run p run := by
  refine Reads.congr (reads_one.bind fun c => reads_many.map (c :: ·)) fun run text => ?_
  constructor
  · rintro ⟨c, t, u, rfl, ⟨rfl, hc⟩, run', rfl, rfl, hrun⟩
    exact ⟨rfl, by simp, List.forall_mem_cons.2 ⟨hc, hrun⟩⟩
  · rintro ⟨rfl, hne, hrun⟩
    obtain ⟨c, run, rfl⟩ := List.exists_cons_of_ne_nil hne
    obtain ⟨hc, hrun⟩ := List.forall_mem_cons.1 hrun
    exact ⟨c, [c], run, rfl, ⟨rfl, hc⟩, run, rfl, rfl, hrun⟩

/-- The texts of some rounds of a pattern, one after the other. -/
def Rounds (R : α → List Char → Prop) : List α → List Char → Prop
  | [], text => text = []
  | a :: as, text => ∃ t u, text = t ++ u ∧ R a t ∧ Rounds R as u

/-- Rounds are read one by one if no round reads the empty text. -/
theorem Reads.star {w : Ways α} {R : α → List Char → Prop} (h : w.Reads R)
    (hne : ∀ a text, R a text → text ≠ []) : (star w).Reads (Rounds R) := by
  have hshorter (cs : List Char) : ∀ x ∈ w cs, x.2.length < cs.length := by
    rintro ⟨a, rest⟩ hx
    obtain ⟨text, rfl, htext⟩ := (h cs a rest).1 hx
    have hpos := List.length_pos_of_ne_nil (hne a text htext)
    show rest.length < (text ++ rest).length
    rw [List.length_append]
    omega
  intro cs as rest
  induction as generalizing cs with
  | nil =>
    rw [star_apply (hshorter cs), Ways.either, List.mem_append, bind_apply, List.mem_flatMap]
    constructor
    · rintro (⟨x, -, hx⟩ | hx)
      · rw [map_apply, List.mem_map] at hx
        obtain ⟨y, -, heq⟩ := hx
        exact absurd (Prod.mk.inj heq).1 (List.cons_ne_nil _ _)
      · obtain ⟨-, rfl⟩ := Prod.mk.inj (List.mem_singleton.1 hx)
        exact ⟨[], rfl, rfl⟩
    · rintro ⟨text, rfl, rfl⟩
      exact Or.inr (List.mem_singleton.2 rfl)
  | cons a as ih =>
    rw [star_apply (hshorter cs), Ways.either, List.mem_append, bind_apply, List.mem_flatMap]
    constructor
    · rintro (⟨⟨a', rest'⟩, ha, hx⟩ | hx)
      · rw [map_apply, List.mem_map] at hx
        obtain ⟨⟨as', rest''⟩, has, heq⟩ := hx
        obtain ⟨heq', rfl⟩ := Prod.mk.inj heq
        obtain ⟨rfl, rfl⟩ := List.cons.inj heq'
        obtain ⟨t, rfl, ht⟩ := (h _ _ _).1 ha
        obtain ⟨u, rfl, hu⟩ := (ih _).1 has
        exact ⟨t ++ u, (List.append_assoc ..).symm, t, u, rfl, ht, hu⟩
      · exact absurd (Prod.mk.inj (List.mem_singleton.1 hx)).1 (List.cons_ne_nil _ _)
    · rintro ⟨text, rfl, t, u, rfl, ht, hu⟩
      refine Or.inl ⟨(a, u ++ rest), (h _ _ _).2 ⟨t, List.append_assoc .., ht⟩, ?_⟩
      rw [map_apply]
      exact List.mem_map.2 ⟨(as, rest), (ih _).2 ⟨u, rfl, hu⟩, rfl⟩

lemma rounds_iff_flatten {P : List Char → Prop} {rounds : List (List Char)} {text : List Char} :
    Rounds (fun found text => text = found ∧ P found) rounds text ↔
      text = rounds.flatten ∧ ∀ found ∈ rounds, P found := by
  induction rounds generalizing text with
  | nil => simp [Rounds]
  | cons found rounds ih =>
    rw [Rounds, List.flatten_cons, List.forall_mem_cons]
    constructor
    · rintro ⟨t, u, rfl, ⟨rfl, hfound⟩, hu⟩
      obtain ⟨rfl, hrounds⟩ := ih.1 hu
      exact ⟨rfl, hfound, hrounds⟩
    · rintro ⟨rfl, hfound, hrounds⟩
      exact ⟨found, rounds.flatten, rfl, ⟨rfl, hfound⟩, ih.2 ⟨rfl, hrounds⟩⟩

/-! ## Runs with single characters between them -/

/-- Runs of characters that pass one test, each but the last in front of a character that passes
another one. -/
inductive RunsBetween (s p : Char → Bool) : List Char → Prop
  | last {run : List Char} (hrun : Run p run) : RunsBetween s p run
  | cons {run rest : List Char} {c : Char} (hrun : Run p run) (hc : s c = true)
      (hrest : RunsBetween s p rest) : RunsBetween s p (run ++ c :: rest)

/-- A run behind a character between two runs. -/
def LaterRun (s p : Char → Bool) (found : List Char) : Prop :=
  ∃ c run, found = c :: run ∧ s c = true ∧ Run p run

/-- Runs with characters between them are a run and later ones. -/
lemma runsBetween_iff {text : List Char} : RunsBetween s p text ↔
    ∃ run, ∃ rounds : List (List Char), text = run ++ rounds.flatten ∧ Run p run ∧
      ∀ found ∈ rounds, LaterRun s p found := by
  constructor
  · intro h
    induction h with
    | @last run hrun => exact ⟨run, [], by simp, hrun, by simp⟩
    | @cons run rest c hrun hc _ ih =>
      obtain ⟨run', rounds, rfl, hrun', hrounds⟩ := ih
      refine ⟨run, (c :: run') :: rounds, rfl, hrun, ?_⟩
      exact List.forall_mem_cons.2 ⟨⟨c, run', rfl, hc, hrun'⟩, hrounds⟩
  · rintro ⟨run, rounds, rfl, hrun, hrounds⟩
    induction rounds generalizing run with
    | nil => simpa using RunsBetween.last hrun
    | cons found rounds ih =>
      obtain ⟨⟨c, run', rfl, hc, hrun'⟩, hlater⟩ := List.forall_mem_cons.1 hrounds
      exact .cons hrun hc (ih run' hrun' hlater)

lemma reads_round : (round s p).Reads fun found text => text = found ∧ LaterRun s p found := by
  refine Reads.congr (reads_one.bind fun c => reads_many1.map (c :: ·)) fun found text => ?_
  constructor
  · rintro ⟨c, t, u, rfl, ⟨rfl, hc⟩, run, rfl, rfl, hrun⟩
    exact ⟨rfl, c, u, rfl, hc, hrun⟩
  · rintro ⟨rfl, c, run, rfl, hc, hrun⟩
    exact ⟨c, [c], run, rfl, ⟨rfl, hc⟩, run, rfl, rfl, hrun⟩

/-- **Runs with single characters between them** are found as they are written. -/
theorem reads_separated : (separated s p).Reads fun found text =>
    text = found ∧ RunsBetween s p found := by
  have hrounds : (star (round s p)).Reads fun rounds text =>
      text = rounds.flatten ∧ ∀ found ∈ rounds, LaterRun s p found := by
    refine Reads.congr (reads_round.star ?_) fun _ _ => rounds_iff_flatten
    rintro found text ⟨rfl, c, run, rfl, -⟩
    exact List.cons_ne_nil c run
  rw [separated_def]
  refine Reads.congr (reads_many1.bind fun run => hrounds.map (run ++ ·.flatten))
    fun found text => ?_
  rw [runsBetween_iff]
  constructor
  · rintro ⟨run, t, u, rfl, ⟨rfl, hrun⟩, rounds, rfl, rfl, hlater⟩
    exact ⟨rfl, t, rounds, rfl, hrun, hlater⟩
  · rintro ⟨rfl, run, rounds, rfl, hrun, hlater⟩
    exact ⟨run, run, rounds.flatten, rfl, ⟨rfl, hrun⟩, rounds, rfl, rfl, hlater⟩

end ImageTags.Text.Ways
