import Mathlib.Data.List.Basic
import ImageTags.Text.Ways

/-!
# The way that counts

A pattern lists its ways in the order of a search that goes back.  Here it is shown when going back
is of no use: a way is *best* for a demand if it is the first one and no later way meets the demand
unless it does.  The demand is that the rest of the pattern can follow.  Best ways can be put
together along the pattern, so what a whole pattern finds is known from what each part takes first.

* `Ways.Best` — the first way is as good as any other.
* `Ways.Best.bind` — best ways one after the other.
* **`Ways.Best.first?_bind`** — a best way decides what the pattern finds.
* `Ways.best_opt_many1`, `Ways.best_separated` — repetitions are best at their greatest length if
  what follows cannot start with more of the same.
-/

namespace ImageTags.Text.Ways

variable {α β γ : Type}

/-- Whether a pattern matches the start of a text. -/
def Matches (w : Ways α) (cs : List Char) : Prop := w cs ≠ []

/-- The first way of a pattern, which finds `a` and leaves `rest`, meets a demand if any does. -/
def Best (w : Ways α) (ok : α → List Char → Prop) (cs : List Char) (a : α) (rest : List Char) :
    Prop :=
  ∃ others, w cs = (a, rest) :: others ∧ ∀ x ∈ others, ok x.1 x.2 → ok a rest

/-! ## Patterns one after the other -/

lemma bind_apply (w : Ways α) (next : α → Ways β) (cs : List Char) :
    (w >>= next) cs = (w cs).flatMap fun x => next x.1 x.2 := rfl

@[simp] lemma pure_apply (a : α) (cs : List Char) : (pure a : Ways α) cs = [(a, cs)] := rfl

lemma bind_eq_nil {w : Ways α} {next : α → Ways β} {cs : List Char} (h : w cs = []) :
    (w >>= next) cs = [] := by
  rw [bind_apply, h, List.flatMap_nil]

/-- What was found may be changed without a change of the ways. -/
lemma map_apply (w : Ways α) (f : α → β) (cs : List Char) :
    (w >>= fun a => pure (f a)) cs = (w cs).map fun x => (f x.1, x.2) := by
  rw [bind_apply, List.map_eq_flatMap]
  rfl

lemma matches_map {w : Ways α} {f : α → β} {cs : List Char} :
    Matches (w >>= fun a => pure (f a)) cs ↔ Matches w cs := by
  rw [Matches, map_apply, ne_eq, List.map_eq_nil_iff, Matches]

lemma first?_map (w : Ways α) (f : α → β) (cs : List Char) :
    (w >>= fun a => pure (f a)).first? cs = (w.first? cs).map f := by
  rw [first?, map_apply, List.head?_map, Option.map_map, first?, Option.map_map]
  rfl

lemma first?_eq_none_iff {w : Ways α} {cs : List Char} :
    w.first? cs = none ↔ ¬ w.Matches cs := by
  rw [first?, Option.map_eq_none_iff, List.head?_eq_none_iff, Matches, Classical.not_not]

lemma matches_of_first? {w : Ways α} {cs : List Char} {a : α} (h : w.first? cs = some a) :
    w.Matches cs := by
  rw [← Classical.not_not (a := w.Matches cs), ← first?_eq_none_iff, h]
  exact Option.some_ne_none a

/-- **A best way decides what a pattern finds.** -/
theorem Best.first?_bind {w : Ways α} {next : α → Ways β} {cs rest : List Char} {a : α}
    (h : Best w (fun a rest => (next a).Matches rest) cs a rest) :
    (w >>= next).first? cs = (next a).first? rest := by
  obtain ⟨others, hw, hothers⟩ := h
  rw [first?, bind_apply, hw, List.flatMap_cons]
  by_cases hnext : (next a).Matches rest
  · obtain ⟨x, xs, hx⟩ := List.exists_cons_of_ne_nil hnext
    simp only [hx, List.cons_append, List.head?_cons, first?]
  · -- no other way can be followed either
    have hnone : others.flatMap (fun x => next x.1 x.2) = [] := by
      rw [List.flatMap_eq_nil_iff]
      intro x hx
      exact Classical.not_not.1 fun hx' => hnext (hothers x hx hx')
    rw [hnone, List.append_nil]
    rfl

/-- A best way of a part decides what is found if the rest of the pattern does not depend on what
the part has found. -/
lemma Best.first?_then {w : Ways α} {tail : Ways β} {f : α → β → γ} {cs rest : List Char} {a : α}
    (h : Best w (fun _ rest => tail.Matches rest) cs a rest) :
    (w >>= fun a => tail >>= fun b => pure (f a b)).first? cs = (tail.first? rest).map (f a) := by
  have h' : Best w (fun a rest => (tail >>= fun b => pure (f a b)).Matches rest) cs a rest := by
    simpa only [matches_map] using h
  rw [h'.first?_bind, first?_map]

lemma Best.mono {w : Ways α} {ok ok' : α → List Char → Prop} {cs rest : List Char} {a : α}
    (h : Best w ok cs a rest) (hok : ∀ a rest, ok a rest ↔ ok' a rest) :
    Best w ok' cs a rest := by
  obtain ⟨others, hw, hothers⟩ := h
  exact ⟨others, hw, fun x hx hx' => (hok _ _).1 (hothers x hx ((hok _ _).2 hx'))⟩

lemma best_pure {ok : α → List Char → Prop} (a : α) (cs : List Char) :
    Best (pure a) ok cs a cs := ⟨[], rfl, by simp⟩

/-- Best ways one after the other are the best way of both; the demand on the first is that a way
of the second meets the demand on both. -/
lemma Best.bind {w : Ways α} {next : α → Ways β} {ok : β → List Char → Prop}
    {cs rest rest' : List Char} {a : α} {b : β}
    (h : Best w (fun a rest => ∃ x ∈ next a rest, ok x.1 x.2) cs a rest)
    (h' : Best (next a) ok rest b rest') : Best (w >>= next) ok cs b rest' := by
  obtain ⟨others, hw, hothers⟩ := h
  obtain ⟨others', hnext, hothers'⟩ := h'
  refine ⟨others' ++ others.flatMap fun x => next x.1 x.2, ?_, ?_⟩
  · rw [bind_apply, hw, List.flatMap_cons, hnext, List.cons_append]
  intro y hy hok
  rcases List.mem_append.1 hy with hy | hy
  · exact hothers' y hy hok
  · obtain ⟨x, hx, hyx⟩ := List.mem_flatMap.1 hy
    obtain ⟨z, hz, hzok⟩ := hothers x hx ⟨y, hyx, hok⟩
    rw [hnext] at hz
    rcases List.mem_cons.1 hz with rfl | hz
    · exact hzok
    · exact hothers' z hz hzok

/-- A best way stays best if what was found is changed. -/
lemma Best.map {w : Ways α} {f : α → β} {ok : β → List Char → Prop} {cs rest : List Char} {a : α}
    (h : Best w (fun a rest => ok (f a) rest) cs a rest) :
    Best (w >>= fun a => pure (f a)) ok cs (f a) rest :=
  Best.bind (h.mono (by simp)) (best_pure _ _)

/-! ## Parts that can be left out, and alternatives -/

/-- A part that is there is best taken if leaving it out is of no more use. -/
lemma Best.opt {w : Ways α} {ok : Option α → List Char → Prop} {cs rest : List Char} {a : α}
    (h : Best w (fun a rest => ok (some a) rest) cs a rest)
    (hnone : ok none cs → ok (some a) rest) : Best (opt w) ok cs (some a) rest := by
  obtain ⟨others, hw, hothers⟩ := h
  refine ⟨others.map (fun x => (some x.1, x.2)) ++ [(none, cs)], by simp [Ways.opt, hw], ?_⟩
  intro x hx hok
  rcases List.mem_append.1 hx with hx | hx
  · obtain ⟨y, hy, rfl⟩ := List.mem_map.1 hx
    exact hothers y hy hok
  · obtain rfl := List.mem_singleton.1 hx
    exact hnone hok

/-- What is best for the first of two patterns is best for both if the second is of no more use. -/
lemma Best.either {w w' : Ways α} {ok : α → List Char → Prop} {cs rest : List Char} {a : α}
    (h : Best w ok cs a rest) (h' : ∀ x ∈ w' cs, ok x.1 x.2 → ok a rest) :
    Best (either w w') ok cs a rest := by
  obtain ⟨others, hw, hothers⟩ := h
  refine ⟨others ++ w' cs, by rw [Ways.either, hw, List.cons_append], ?_⟩
  intro x hx hok
  rcases List.mem_append.1 hx with hx | hx
  · exact hothers x hx hok
  · exact h' x hx hok

lemma opt_of_not_matches {w : Ways α} {cs : List Char} (h : w cs = []) :
    opt w cs = [(none, cs)] := by
  rw [Ways.opt, h]
  rfl

/-- A part that is not there can only be left out. -/
lemma best_opt_none {w : Ways α} {ok : Option α → List Char → Prop} {cs : List Char}
    (h : w cs = []) : Best (opt w) ok cs none cs :=
  ⟨[], opt_of_not_matches h, by simp⟩

lemma either_of_right {w w' : Ways α} {cs : List Char} (h : w cs = []) :
    either w w' cs = w' cs := by
  rw [either, h, List.nil_append]

lemma Best.congr {w w' : Ways α} {ok : α → List Char → Prop} {cs cs' rest : List Char} {a : α}
    (h : Best w ok cs a rest) (heq : w' cs' = w cs) : Best w' ok cs' a rest := by
  obtain ⟨others, hw, hothers⟩ := h
  exact ⟨others, heq.trans hw, hothers⟩

/-! ## Repetitions -/

variable {p : Char → Bool}

/-- Whether a text starts with a character that passes a test. -/
def StartsWith (p : Char → Bool) (cs : List Char) : Prop := ∃ c ∈ cs.head?, p c = true

lemma startsWith_iff {cs : List Char} :
    StartsWith p cs ↔ ∃ c rest, cs = c :: rest ∧ p c = true := by
  cases cs with
  | nil => simp [StartsWith]
  | cons c cs => simp [StartsWith]

@[simp] lemma startsWith_cons {c : Char} {cs : List Char} :
    StartsWith p (c :: cs) ↔ p c = true := by
  simp [StartsWith]

@[simp] lemma not_startsWith_nil : ¬ StartsWith p [] := by
  simp [StartsWith]

lemma not_startsWith_dropWhile (cs : List Char) : ¬ StartsWith p (cs.dropWhile p) := by
  rintro ⟨c, hc, hp⟩
  have hnot := List.head?_dropWhile_not p cs
  rw [Option.mem_def.1 hc] at hnot
  simp [hp] at hnot

lemma dropWhile_eq_self {cs : List Char} (h : ¬ StartsWith p cs) : cs.dropWhile p = cs := by
  cases cs with
  | nil => rfl
  | cons c cs => rw [List.dropWhile_cons_of_neg (by simpa using h)]

lemma takeWhile_eq_nil {cs : List Char} (h : ¬ StartsWith p cs) : cs.takeWhile p = [] := by
  cases cs with
  | nil => rfl
  | cons c cs => rw [List.takeWhile_cons_of_neg (by simpa using h)]

/-- A run ends where a text starts that does not go on with it. -/
lemma takeWhile_run {run rest : List Char} (hrun : ∀ c ∈ run, p c = true)
    (hrest : ¬ StartsWith p rest) : (run ++ rest).takeWhile p = run := by
  rw [List.takeWhile_append_of_pos hrun, takeWhile_eq_nil hrest, List.append_nil]

lemma dropWhile_run {run rest : List Char} (hrun : ∀ c ∈ run, p c = true)
    (hrest : ¬ StartsWith p rest) : (run ++ rest).dropWhile p = rest := by
  rw [List.dropWhile_append_of_pos hrun, dropWhile_eq_self hrest]

/-- All that a repetition can take, and after it the ways that leave more of the same. -/
lemma many_apply (p : Char → Bool) (cs : List Char) :
    ∃ others, many p cs = (cs.takeWhile p, cs.dropWhile p) :: others ∧
      ∀ x ∈ others, StartsWith p x.2 := by
  induction cs with
  | nil => exact ⟨[], rfl, by simp⟩
  | cons c cs ih =>
    by_cases hc : p c = true
    · obtain ⟨others, hmany, hothers⟩ := ih
      refine ⟨others.map (fun x => (c :: x.1, x.2)) ++ [([], c :: cs)], ?_, ?_⟩
      · simp [many, hmany, hc]
      intro x hx
      rcases List.mem_append.1 hx with hx | hx
      · obtain ⟨y, hy, rfl⟩ := List.mem_map.1 hx
        exact hothers y hy
      · obtain rfl := List.mem_singleton.1 hx
        simpa using hc
    · exact ⟨[], by simp [many, hc], by simp⟩

lemma one_cons (p : Char → Bool) (c : Char) (cs : List Char) :
    one p (c :: cs) = if p c then [(c, cs)] else [] := rfl

lemma one_eq_nil {cs : List Char} (h : ¬ StartsWith p cs) : one p cs = [] := by
  cases cs with
  | nil => rfl
  | cons c cs => rw [one_cons, if_neg (by simpa using h)]

lemma one_char_eq_nil {d : Char} {cs : List Char} (h : ∀ rest, cs ≠ d :: rest) :
    one (· = d) cs = [] := by
  refine one_eq_nil fun hstart => ?_
  obtain ⟨c, rest, rfl, hc⟩ := startsWith_iff.1 hstart
  exact h rest (by rw [of_decide_eq_true hc])

lemma best_one {ok : Char → List Char → Prop} {c : Char} (hc : p c = true) (cs : List Char) :
    Best (one p) ok (c :: cs) c cs :=
  ⟨[], by rw [one_cons, if_pos hc], by simp⟩

lemma many1_cons {c : Char} (hc : p c = true) (cs : List Char) :
    many1 p (c :: cs) = (many p cs).map fun x => (c :: x.1, x.2) := by
  rw [many1, bind_apply, one_cons, if_pos hc, List.flatMap_cons, List.flatMap_nil, List.append_nil,
    map_apply]

lemma many1_eq_nil {cs : List Char} (h : ¬ StartsWith p cs) : many1 p cs = [] :=
  bind_eq_nil (one_eq_nil h)

lemma many1_apply {cs : List Char} (h : StartsWith p cs) :
    ∃ others, many1 p cs = (cs.takeWhile p, cs.dropWhile p) :: others ∧
      ∀ x ∈ others, StartsWith p x.2 := by
  obtain ⟨c, cs, rfl, hp⟩ := startsWith_iff.1 h
  obtain ⟨others, hmany, hothers⟩ := many_apply p cs
  refine ⟨others.map fun x => (c :: x.1, x.2), ?_, ?_⟩
  · simp [many1_cons hp, hmany, hp]
  · intro x hx
    obtain ⟨y, hy, rfl⟩ := List.mem_map.1 hx
    exact hothers y hy

variable {ok : List Char → List Char → Prop}

/-- A repetition is best at its greatest length if what follows does not start with more of the
same. -/
lemma best_many (hok : ∀ run rest, StartsWith p rest → ¬ ok run rest) (cs : List Char) :
    Best (many p) ok cs (cs.takeWhile p) (cs.dropWhile p) := by
  obtain ⟨others, hmany, hothers⟩ := many_apply p cs
  exact ⟨others, hmany, fun x hx hx' => absurd hx' (hok _ _ (hothers x hx))⟩

lemma best_many1 (hok : ∀ run rest, StartsWith p rest → ¬ ok run rest) {cs : List Char}
    (h : StartsWith p cs) : Best (many1 p) ok cs (cs.takeWhile p) (cs.dropWhile p) := by
  obtain ⟨others, hmany, hothers⟩ := many1_apply h
  exact ⟨others, hmany, fun x hx hx' => absurd hx' (hok _ _ (hothers x hx))⟩

/-- The run of characters at the start of a text that pass a test, if there are any. -/
def run? (p : Char → Bool) (cs : List Char) : Option (List Char) :=
  if cs.takeWhile p = [] then none else some (cs.takeWhile p)

lemma run?_of_startsWith {cs : List Char} (h : StartsWith p cs) :
    run? p cs = some (cs.takeWhile p) := by
  obtain ⟨c, cs, rfl, hp⟩ := startsWith_iff.1 h
  rw [run?, if_neg (by simp [hp])]

lemma run?_of_not_startsWith {cs : List Char} (h : ¬ StartsWith p cs) : run? p cs = none := by
  rw [run?, if_pos (takeWhile_eq_nil h)]

/-- **A run that can be left out is best taken at its greatest length** if what follows does not
start with more of the same. -/
theorem best_opt_many1 {ok : Option (List Char) → List Char → Prop}
    (hok : ∀ run rest, StartsWith p rest → ¬ ok run rest) (cs : List Char) :
    Best (opt (many1 p)) ok cs (run? p cs) (cs.dropWhile p) := by
  by_cases h : StartsWith p cs
  · rw [run?_of_startsWith h]
    exact Best.opt (best_many1 (fun run rest => hok (some run) rest) h)
      fun hnone => absurd hnone (hok _ _ h)
  · rw [run?_of_not_startsWith h, dropWhile_eq_self h]
    exact best_opt_none (many1_eq_nil h)

/-! ## Runs with single characters between them -/

lemma length_of_mem_many {cs : List Char} {x : List Char × List Char} (h : x ∈ many p cs) :
    x.2.length ≤ cs.length := by
  induction cs generalizing x with
  | nil => simp_all [many]
  | cons c cs ih =>
    rcases List.mem_append.1 h with h | h
    · by_cases hc : p c = true
      · rw [if_pos hc] at h
        obtain ⟨⟨run, rest⟩, hy, rfl⟩ := List.mem_map.1 h
        have hlength := ih hy
        exact Nat.le_succ_of_le hlength
      · simp [hc] at h
    · obtain rfl := List.mem_singleton.1 h
      exact Nat.le_refl _

lemma length_of_mem_many1 {cs : List Char} {x : List Char × List Char} (h : x ∈ many1 p cs) :
    x.2.length < cs.length := by
  by_cases hcs : StartsWith p cs
  · obtain ⟨c, cs, rfl, hp⟩ := startsWith_iff.1 hcs
    rw [many1_cons hp] at h
    obtain ⟨y, hy, rfl⟩ := List.mem_map.1 h
    have hlength := length_of_mem_many hy
    exact Nat.lt_succ_of_le hlength
  · rw [many1_eq_nil hcs] at h
    simp at h

/-- If no round takes nothing, rounds are one round and then more of them, or none. -/
lemma star_apply {w : Ways α} {cs : List Char} (h : ∀ x ∈ w cs, x.2.length < cs.length) :
    star w cs =
      either (w >>= fun a => star w >>= fun as => pure (a :: as)) (pure []) cs := by
  rw [star, either, bind_apply]
  refine congrArg (· ++ [([], cs)]) (List.flatMap_congr fun x hx => ?_)
  exact (dif_pos (h x hx)).trans (map_apply (star w) (x.1 :: ·) x.2).symm

variable {s : Char → Bool}

/-- One round of `separated`: a character between two runs and the second run. -/
def round (s p : Char → Bool) : Ways (List Char) := do
  let c ← one s
  let run ← many1 p
  return c :: run

lemma separated_def (s p : Char → Bool) :
    separated s p = many1 p >>= fun run => star (round s p) >>= fun runs =>
      pure (run ++ runs.flatten) := rfl

/-- Whether a text starts with more of some runs: with a character inside of one, or with one
between two and then one inside. -/
def GoesOn (s p : Char → Bool) : List Char → Prop
  | [] => False
  | c :: cs => p c = true ∨ s c = true ∧ StartsWith p cs

instance (cs : List Char) : Decidable (StartsWith p cs) :=
  decidable_of_iff (cs.head?.any p = true) (by cases cs <;> simp [StartsWith])

instance (cs : List Char) : Decidable (GoesOn s p cs) :=
  match cs with
  | [] => inferInstanceAs (Decidable False)
  | c :: cs => inferInstanceAs (Decidable (p c = true ∨ s c = true ∧ StartsWith p cs))

/-- The longest stretch of runs at the start of a text, and what follows it. -/
def stretch (s p : Char → Bool) : List Char → List Char × List Char
  | [] => ([], [])
  | c :: cs =>
    if GoesOn s p (c :: cs) then (c :: (stretch s p cs).1, (stretch s p cs).2)
    else ([], c :: cs)

lemma goesOn_of_startsWith {cs : List Char} (h : StartsWith p cs) : GoesOn s p cs := by
  obtain ⟨c, cs, rfl, hp⟩ := startsWith_iff.1 h
  exact Or.inl hp

lemma stretch_of_not_goesOn {cs : List Char} (h : ¬ GoesOn s p cs) : stretch s p cs = ([], cs) := by
  cases cs with
  | nil => rfl
  | cons c cs => rw [stretch, if_neg h]

lemma stretch_of_goesOn {c : Char} {cs : List Char} (h : GoesOn s p (c :: cs)) :
    stretch s p (c :: cs) = (c :: (stretch s p cs).1, (stretch s p cs).2) := by
  rw [stretch, if_pos h]

/-- A stretch begins with a whole run. -/
lemma stretch_run (s p : Char → Bool) (cs : List Char) :
    stretch s p cs = (cs.takeWhile p ++ (stretch s p (cs.dropWhile p)).1,
      (stretch s p (cs.dropWhile p)).2) := by
  induction cs with
  | nil => rfl
  | cons c cs ih =>
    by_cases hc : p c = true
    · rw [stretch_of_goesOn (Or.inl hc), ih]
      simp [hc]
    · simp [hc]

/-- A stretch takes any run of characters inside of it. -/
lemma stretch_append {run : List Char} (hrun : ∀ c ∈ run, p c = true) (rest : List Char) :
    stretch s p (run ++ rest) = (run ++ (stretch s p rest).1, (stretch s p rest).2) := by
  induction run with
  | nil => rfl
  | cons c run ih =>
    obtain ⟨hc, hrun⟩ := List.forall_mem_cons.1 hrun
    rw [List.cons_append, stretch_of_goesOn (Or.inl hc), ih hrun]
    rfl

/-- A stretch takes a run and more runs with single characters in front of them. -/
lemma stretch_runs {run : List Char} {others : List (Char × List Char)} {rest : List Char}
    (hrun : ∀ c ∈ run, p c = true)
    (hothers : ∀ x ∈ others, s x.1 = true ∧ x.2 ≠ [] ∧ ∀ c ∈ x.2, p c = true)
    (hrest : ¬ GoesOn s p rest) :
    stretch s p (run ++ (others.flatMap fun x => x.1 :: x.2) ++ rest) =
      (run ++ others.flatMap fun x => x.1 :: x.2, rest) := by
  induction others generalizing run with
  | nil => rw [List.flatMap_nil, List.append_nil, stretch_append hrun, stretch_of_not_goesOn hrest,
      List.append_nil]
  | cons x others ih =>
    obtain ⟨⟨hs, hne, hx⟩, hothers⟩ := List.forall_mem_cons.1 hothers
    obtain ⟨c, cs, hcs⟩ := List.exists_cons_of_ne_nil hne
    have hstart : GoesOn s p (x.1 :: (x.2 ++ (others.flatMap fun x => x.1 :: x.2) ++ rest)) := by
      refine Or.inr ⟨hs, ?_⟩
      rw [hcs]
      exact startsWith_cons.2 (hx c (hcs ▸ List.mem_cons_self))
    rw [List.flatMap_cons, List.append_assoc, stretch_append hrun, List.cons_append,
      List.cons_append, stretch_of_goesOn hstart, ih hx hothers]

/-- A stretch that starts with a run is that run and more runs with single characters in front of
them. -/
lemma exists_runs_of_stretch {cs : List Char} (h : StartsWith p cs) :
    ∃ (run : List Char) (others : List (Char × List Char)),
      (stretch s p cs).1 = run ++ others.flatMap (fun x => x.1 :: x.2) ∧
      run ≠ [] ∧ (∀ c ∈ run, p c = true) ∧
      ∀ x ∈ others, s x.1 = true ∧ x.2 ≠ [] ∧ ∀ c ∈ x.2, p c = true := by
  induction hn : cs.length using Nat.strongRecOn generalizing cs with | ind n ih => ?_
  have hne : cs.takeWhile p ≠ [] := by
    obtain ⟨c, cs, rfl, hp⟩ := startsWith_iff.1 h
    simp [hp]
  have hrun : ∀ c ∈ cs.takeWhile p, p c = true := List.all_eq_true.1 List.all_takeWhile
  rw [stretch_run]
  by_cases hgoes : GoesOn s p (cs.dropWhile p)
  · cases hdrop : cs.dropWhile p with
    | nil => simp [hdrop, GoesOn] at hgoes
    | cons c rest =>
      have hstop : ¬ p c = true := by
        intro hc
        exact not_startsWith_dropWhile (p := p) cs (hdrop ▸ startsWith_cons.2 hc)
      rw [hdrop] at hgoes
      obtain ⟨hc, hrest⟩ := hgoes.resolve_left hstop
      have hlength : rest.length < n := by
        have hle := (List.dropWhile_suffix p (l := cs)).length_le
        rw [hdrop, List.length_cons] at hle
        omega
      obtain ⟨run, others, hstretch, hrun', hrunall, hothers⟩ := ih _ hlength hrest rfl
      refine ⟨cs.takeWhile p, (c, run) :: others, ?_, hne, hrun, ?_⟩
      · simp [stretch_of_goesOn hgoes, hstretch]
      · exact List.forall_mem_cons.2 ⟨⟨hc, hrun', hrunall⟩, hothers⟩
  · refine ⟨cs.takeWhile p, [], ?_, hne, hrun, by simp⟩
    simp [stretch_of_not_goesOn hgoes]

lemma round_eq_nil {cs : List Char} (hp : ¬ StartsWith p cs) (h : ¬ GoesOn s p cs) :
    round s p cs = [] := by
  cases cs with
  | nil => rfl
  | cons c cs =>
    by_cases hc : s c = true
    · have hcs : ¬ StartsWith p cs := fun hcs => h (Or.inr ⟨hc, hcs⟩)
      rw [round, bind_apply, one_cons, if_pos hc, List.flatMap_cons, bind_eq_nil (many1_eq_nil hcs)]
      rfl
    · exact bind_eq_nil (one_eq_nil (by simpa using hc))

lemma length_of_mem_round {cs : List Char} {x : List Char × List Char} (h : x ∈ round s p cs) :
    x.2.length < cs.length := by
  rw [round, bind_apply] at h
  obtain ⟨y, hy, hx⟩ := List.mem_flatMap.1 h
  rw [map_apply] at hx
  obtain ⟨z, hz, rfl⟩ := List.mem_map.1 hx
  have hlength := length_of_mem_many1 hz
  cases cs with
  | nil => simp [one] at hy
  | cons c cs =>
    rw [one_cons] at hy
    split at hy
    · obtain rfl := List.mem_singleton.1 hy
      exact Nat.lt_succ_of_lt hlength
    · simp at hy

/-- A round that is there takes a whole run. -/
lemma best_round {ok : List Char → List Char → Prop}
    (hok : ∀ run rest, StartsWith p rest → ¬ ok run rest) {c : Char} {cs : List Char}
    (hc : s c = true) (hcs : StartsWith p cs) :
    Best (round s p) ok (c :: cs) (c :: cs.takeWhile p) (cs.dropWhile p) := by
  refine Best.bind (best_one hc cs) (Best.map (best_many1 (fun run rest => ?_) hcs))
  exact hok (c :: run) rest

/-- A run is followed by one character between two runs, never by another one inside of a run. -/
lemma star_round_of_startsWith (hsp : ∀ c, s c = true → p c = false) {cs : List Char}
    (h : StartsWith p cs) : star (round s p) cs = [([], cs)] := by
  obtain ⟨c, cs, rfl, hp⟩ := startsWith_iff.1 h
  have hround : round s p (c :: cs) = [] := by
    refine bind_eq_nil (one_eq_nil fun hs => ?_)
    rw [startsWith_cons] at hs
    simp [hsp c hs] at hp
  rw [star_apply (fun _ => length_of_mem_round), either, bind_eq_nil hround]
  rfl

/-- Rounds are best at their greatest number, each with a whole run. -/
lemma best_star_round (hsp : ∀ c, s c = true → p c = false)
    (ok : List (List Char) → List Char → Prop) (hok : ∀ runs rest, GoesOn s p rest → ¬ ok runs rest)
    (cs : List Char) (hcs : ¬ StartsWith p cs) :
    ∃ runs, runs.flatten = (stretch s p cs).1 ∧
      Best (star (round s p)) ok cs runs (stretch s p cs).2 := by
  induction hn : cs.length using Nat.strongRecOn generalizing cs ok with | ind n ih => ?_
  by_cases h : GoesOn s p cs
  · cases cs with
    | nil => exact absurd h id
    | cons c cs =>
      obtain ⟨hc, hrun⟩ : s c = true ∧ StartsWith p cs := h.resolve_left (by simpa using hcs)
      have hlength : (cs.dropWhile p).length < n := by
        have hdrop := (List.dropWhile_suffix p (l := cs)).length_le
        rw [List.length_cons] at hn
        omega
      obtain ⟨runs, hruns, hbest⟩ := ih _ hlength
        (fun runs rest => ok ((c :: cs.takeWhile p) :: runs) rest) (fun _ _ => hok _ _)
        (cs.dropWhile p) (not_startsWith_dropWhile cs) rfl
      refine ⟨(c :: cs.takeWhile p) :: runs, ?_, ?_⟩
      · rw [stretch_of_goesOn h, stretch_run, List.flatten_cons, hruns]
        rfl
      refine Best.congr (Best.either ?_ fun x hx hok' => ?_)
        (star_apply fun _ => length_of_mem_round)
      · rw [stretch_of_goesOn h, stretch_run]
        refine Best.bind (best_round (fun run rest hrest => ?_) hc hrun) (Best.map hbest)
        -- after a part of a run no round can follow, and stopping there is refused
        rintro ⟨x, hx, hx'⟩
        rw [map_apply, star_round_of_startsWith hsp hrest] at hx
        obtain rfl := List.mem_singleton.1 hx
        exact hok _ _ (goesOn_of_startsWith hrest) hx'
      · obtain rfl := List.mem_singleton.1 hx
        exact absurd hok' (hok _ _ h)
  · rw [stretch_of_not_goesOn h]
    refine ⟨[], rfl, [], ?_, by simp⟩
    rw [star_apply (fun _ => length_of_mem_round), either, bind_eq_nil (round_eq_nil hcs h)]
    rfl

lemma separated_eq_nil {cs : List Char} (h : ¬ StartsWith p cs) : separated s p cs = [] :=
  bind_eq_nil (many1_eq_nil h)

/-- **Runs with single characters between them are best taken as one stretch, as long as it can
be,** if what follows does not start with more of it. -/
theorem best_separated (hsp : ∀ c, s c = true → p c = false)
    {ok : List Char → List Char → Prop} (hok : ∀ text rest, GoesOn s p rest → ¬ ok text rest)
    {cs : List Char} (h : StartsWith p cs) :
    Best (separated s p) ok cs (stretch s p cs).1 (stretch s p cs).2 := by
  obtain ⟨runs, hruns, hbest⟩ := best_star_round hsp
    (fun runs rest => ok (cs.takeWhile p ++ runs.flatten) rest) (fun _ _ => hok _ _)
    (cs.dropWhile p) (not_startsWith_dropWhile cs)
  rw [separated_def, stretch_run, ← hruns]
  refine Best.bind (best_many1 (fun run rest hrest => ?_) h) (Best.map hbest)
  rintro ⟨x, hx, hx'⟩
  rw [map_apply, star_round_of_startsWith hsp hrest] at hx
  obtain rfl := List.mem_singleton.1 hx
  exact hok _ _ (goesOn_of_startsWith hrest) hx'

end ImageTags.Text.Ways
