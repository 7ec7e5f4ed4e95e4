import Mathlib.Data.List.Forall2
import Mathlib.Data.List.Perm.Basic
import Mathlib.Tactic.Lemma

/-!
# Steps that can fail

Reading and resolving go in steps of which each may fail.  The lemmas open a computation that has
succeeded: then each of its steps has, and what they gave is at hand.  Two computations are compared
step by step as well: `Alike` says that they fail with the same failure or both succeed.
-/

namespace ImageTags

variable {ε α β : Type}

/-- Two steps succeed if the first does and the second does with what the first gave. -/
lemma bind_eq_ok {x : Except ε α} {f : α → Except ε β} {b : β} :
    x >>= f = .ok b ↔ ∃ a, x = .ok a ∧ f a = .ok b := by
  cases x with
  | error e => simp [bind, Except.bind]
  | ok a => simp [bind, Except.bind]

/-- A step whose result is changed succeeds if the step does. -/
lemma map_eq_ok {x : Except ε α} {f : α → β} {b : β} :
    x.map f = .ok b ↔ ∃ a, x = .ok a ∧ f a = b := by
  cases x with
  | error e => simp [Except.map]
  | ok a => simp [Except.map]

/-- Two steps fail if the first does, or the second does with what the first gave. -/
lemma bind_eq_error {x : Except ε α} {f : α → Except ε β} {e : ε} :
    x >>= f = .error e ↔ x = .error e ∨ ∃ a, x = .ok a ∧ f a = .error e := by
  cases x with
  | error e' => simp [bind, Except.bind]
  | ok a => simp [bind, Except.bind]

/-- A step whose result is changed fails if the step does. -/
lemma map_eq_error {x : Except ε α} {f : α → β} {e : ε} :
    x.map f = .error e ↔ x = .error e := by
  cases x with
  | error e' => simp [Except.map]
  | ok a => simp [Except.map]

@[simp] lemma mapError_ok {ε' : Type} {f : ε → ε'} {a : α} :
    (Except.ok a : Except ε α).mapError f = .ok a := rfl

@[simp] lemma mapError_error {ε' : Type} {f : ε → ε'} {e : ε} :
    (Except.error e : Except ε α).mapError f = .error (f e) := rfl

/-- The failures of two steps are changed in each of them. -/
lemma mapError_bind {ε' : Type} {x : Except ε α} {f : α → Except ε β} {g : ε → ε'} :
    (x >>= f).mapError g = x.mapError g >>= fun a => (f a).mapError g := by
  cases x <;> rfl

/-- A step whose failure is changed succeeds if the step does. -/
lemma mapError_eq_ok {ε' : Type} {x : Except ε α} {f : ε → ε'} {a : α} :
    x.mapError f = .ok a ↔ x = .ok a := by
  cases x <;> simp

/-- A step whose failure is changed fails if the step does. -/
lemma mapError_eq_error {ε' : Type} {x : Except ε α} {f : ε → ε'} {e' : ε'} :
    x.mapError f = .error e' ↔ ∃ e, x = .error e ∧ f e = e' := by
  cases x <;> simp

/-- The same step for each entry of a list succeeds if it does for the first and the others. -/
lemma mapM_cons_eq_ok {f : α → Except ε β} {a : α} {as : List α} {bs : List β} :
    (a :: as).mapM f = .ok bs ↔
      ∃ b, f a = .ok b ∧ ∃ bs', as.mapM f = .ok bs' ∧ bs = b :: bs' := by
  rw [List.mapM_cons, bind_eq_ok]
  refine exists_congr fun b => and_congr_right fun _ => ?_
  rw [bind_eq_ok]
  refine exists_congr fun bs' => and_congr_right fun _ => ?_
  simp [pure, Except.pure, eq_comm]

/-- What comes out of a list of steps came out of one of them. -/
lemma exists_of_mem_mapM {f : α → Except ε β} {as : List α} {bs : List β} {b : β}
    (h : as.mapM f = .ok bs) (hb : b ∈ bs) : ∃ a ∈ as, f a = .ok b := by
  induction as generalizing bs with
  | nil =>
    obtain rfl := Except.ok.inj h
    simp at hb
  | cons a as ih =>
    obtain ⟨b', hb', bs', hbs', rfl⟩ := mapM_cons_eq_ok.1 h
    rcases List.mem_cons.1 hb with rfl | hb
    · exact ⟨a, List.mem_cons_self, hb'⟩
    · obtain ⟨a', ha', hfa'⟩ := ih hbs' hb
      exact ⟨a', List.mem_cons_of_mem _ ha', hfa'⟩

/-- Each entry of a list of steps comes with what came out of its step. -/
lemma forall₂_of_mapM {f : α → Except ε β} {as : List α} {bs : List β}
    (h : as.mapM f = .ok bs) : List.Forall₂ (fun a b => f a = .ok b) as bs := by
  induction as generalizing bs with
  | nil =>
    obtain rfl := Except.ok.inj h
    exact .nil
  | cons a as ih =>
    obtain ⟨b, hb, bs, hbs, rfl⟩ := mapM_cons_eq_ok.1 h
    exact .cons hb (ih hbs)

/-- A list of steps succeeds if each entry comes with what comes out of its step. -/
lemma mapM_of_forall₂ {f : α → Except ε β} {as : List α} {bs : List β}
    (h : List.Forall₂ (fun a b => f a = .ok b) as bs) : as.mapM f = .ok bs := by
  induction h with
  | nil => rfl
  | cons ha _ ih => exact mapM_cons_eq_ok.2 ⟨_, ha, _, ih, rfl⟩

/-- What comes out at a place of a list of steps came out of the step at that place. -/
lemma getElem?_of_mapM {f : α → Except ε β} {as : List α} {bs : List β}
    (h : as.mapM f = .ok bs) {i : Nat} {b : β} :
    bs[i]? = some b ↔ ∃ a, as[i]? = some a ∧ f a = .ok b := by
  induction as generalizing bs i with
  | nil =>
    obtain rfl := Except.ok.inj h
    simp
  | cons a as ih =>
    obtain ⟨b', hb', bs, hbs, rfl⟩ := mapM_cons_eq_ok.1 h
    cases i with
    | zero => simp [hb']
    | succ i => simpa using ih hbs

/-- A list of steps fails as the first of them that fails. -/
lemma mapM_eq_error_iff {f : α → Except ε β} {as : List α} {e : ε} :
    as.mapM f = .error e ↔ ∃ before a after, as = before ++ a :: after ∧
      (∀ b ∈ before, ∃ c, f b = .ok c) ∧ f a = .error e := by
  induction as with
  | nil => simp [pure, Except.pure]
  | cons a as ih =>
    rw [List.mapM_cons, bind_eq_error]
    constructor
    · rintro (h | ⟨c, hc, h⟩)
      · exact ⟨[], a, as, rfl, by simp, h⟩
      · rcases bind_eq_error.1 h with h | ⟨cs, -, h⟩
        · obtain ⟨before, a', after, rfl, hbefore, ha'⟩ := ih.1 h
          exact ⟨a :: before, a', after, rfl, List.forall_mem_cons.2 ⟨⟨c, hc⟩, hbefore⟩, ha'⟩
        · simp [pure, Except.pure] at h
    · rintro ⟨before, a', after, heq, hbefore, ha'⟩
      cases before with
      | nil =>
        obtain ⟨rfl, rfl⟩ := List.cons.inj heq
        exact Or.inl ha'
      | cons b before =>
        obtain ⟨rfl, rfl⟩ := List.cons.inj heq
        obtain ⟨⟨c, hc⟩, hbefore⟩ := List.forall_mem_cons.1 hbefore
        have hrest := ih.2 ⟨before, a', after, rfl, hbefore, ha'⟩
        exact Or.inr ⟨c, hc, bind_eq_error.2 (Or.inl hrest)⟩

/-- A list of steps fails as one of them does. -/
lemma exists_of_mapM_error {f : α → Except ε β} {as : List α} {e : ε}
    (h : as.mapM f = .error e) : ∃ a ∈ as, f a = .error e := by
  obtain ⟨before, a, after, rfl, -, ha⟩ := mapM_eq_error_iff.1 h
  exact ⟨a, by simp, ha⟩

/-- What is known to come out of each step comes out of a list of them, whatever can go wrong. -/
lemma mapM_map_eq_pure {m : Type → Type} [Monad m] [LawfulMonad m] {γ : Type} {f : α → m β}
    {g : γ → α} {k : γ → β} {cs : List γ} (h : ∀ c ∈ cs, f (g c) = pure (k c)) :
    (cs.map g).mapM f = pure (cs.map k) := by
  induction cs with
  | nil => rfl
  | cons c cs ih =>
    obtain ⟨hc, hcs⟩ := List.forall_mem_cons.1 h
    rw [List.map_cons, List.mapM_cons, hc, ih hcs]
    simp

/-- A list of steps succeeds if each step does with what is known to come out of it. -/
lemma mapM_map_eq_ok {γ : Type} {f : α → Except ε β} {g : γ → α} {k : γ → β} {cs : List γ}
    (h : ∀ c ∈ cs, f (g c) = .ok (k c)) : (cs.map g).mapM f = .ok (cs.map k) :=
  mapM_map_eq_pure h

/-- A list of steps succeeds if each step does. -/
lemma exists_mapM_eq_ok_iff {f : α → Except ε β} {as : List α} :
    (∃ bs, as.mapM f = .ok bs) ↔ ∀ a ∈ as, ∃ b, f a = .ok b := by
  induction as with
  | nil => exact ⟨fun _ => by simp, fun _ => ⟨[], rfl⟩⟩
  | cons a as ih =>
    rw [List.forall_mem_cons, ← ih]
    constructor
    · rintro ⟨bs, hbs⟩
      obtain ⟨b, hb, bs', hbs', -⟩ := mapM_cons_eq_ok.1 hbs
      exact ⟨⟨b, hb⟩, bs', hbs'⟩
    · rintro ⟨⟨b, hb⟩, bs, hbs⟩
      exact ⟨b :: bs, mapM_cons_eq_ok.2 ⟨b, hb, bs, hbs, rfl⟩⟩

/-- What comes out of some of the steps, where the outcome of a step tells whether it is one of
them. -/
lemma mapM_filter_eq_ok {f : α → Except ε β} {p : α → Bool} {q : β → Bool} {as : List α}
    {bs : List β} (hpq : ∀ a ∈ as, ∀ b, f a = .ok b → p a = q b) (h : as.mapM f = .ok bs) :
    (as.filter p).mapM f = .ok (bs.filter q) := by
  induction as generalizing bs with
  | nil =>
    obtain rfl := Except.ok.inj h
    rfl
  | cons a as ih =>
    obtain ⟨b, hb, bs, hbs, rfl⟩ := mapM_cons_eq_ok.1 h
    obtain ⟨ha, has⟩ := List.forall_mem_cons.1 hpq
    have hrest := ih has hbs
    rw [List.filter_cons, List.filter_cons, ha b hb]
    split
    · exact mapM_cons_eq_ok.2 ⟨b, hb, _, hrest, rfl⟩
    · exact hrest

/-- The same steps for the same entries. -/
lemma mapM_congr {f g : α → Except ε β} {as : List α} (h : ∀ a ∈ as, f a = g a) :
    as.mapM f = as.mapM g := by
  induction as with
  | nil => rfl
  | cons a as ih =>
    obtain ⟨ha, has⟩ := List.forall_mem_cons.1 h
    rw [List.mapM_cons, List.mapM_cons, ha, ih has]

/-- The failures of a list of steps are changed in each of them. -/
lemma mapError_mapM {ε' : Type} {f : α → Except ε β} {g : ε → ε'} {as : List α} :
    (as.mapM f).mapError g = as.mapM fun a => (f a).mapError g := by
  induction as with
  | nil => rfl
  | cons a as ih =>
    rw [List.mapM_cons, List.mapM_cons, mapError_bind]
    refine congrArg _ (funext fun b => ?_)
    rw [mapError_bind, ih]
    rfl

/-- Two computations fail with the same failure, or both succeed and their results are related. -/
inductive Alike (R : α → α → Prop) : Except ε α → Except ε α → Prop
  | error (e : ε) : Alike R (.error e) (.error e)
  | ok {a b : α} (h : R a b) : Alike R (.ok a) (.ok b)

/-- Two computations are alike that start with the same step and go on alike if it succeeds. -/
lemma Alike.bind {R : β → β → Prop} {x : Except ε α} {f g : α → Except ε β}
    (h : ∀ a, x = .ok a → Alike R (f a) (g a)) : Alike R (x >>= f) (x >>= g) := by
  cases x with
  | error e => exact .error e
  | ok a => exact h a rfl

/-- Two computations are alike that start with steps that are alike and go on alike with what is
related. -/
lemma Alike.bind_alike {Q : α → α → Prop} {R : β → β → Prop} {x y : Except ε α}
    {f g : α → Except ε β} (hxy : Alike Q x y)
    (h : ∀ a b, x = .ok a → Q a b → Alike R (f a) (g b)) : Alike R (x >>= f) (y >>= g) := by
  cases hxy with
  | error e => exact .error e
  | ok hab => exact h _ _ rfl hab

/-- Two computations that are alike both succeed, or both fail. -/
lemma Alike.ok_or_error {R : α → α → Prop} {x y : Except ε α} (h : Alike R x y) :
    (∃ a b, x = .ok a ∧ y = .ok b ∧ R a b) ∨ ∃ e, x = .error e ∧ y = .error e := by
  cases h with
  | error e => exact Or.inr ⟨e, rfl, rfl⟩
  | ok h => exact Or.inl ⟨_, _, rfl, rfl, h⟩

/-- What is alike to a computation that succeeds succeeds as well. -/
lemma Alike.exists_ok {R : α → α → Prop} {a : α} {y : Except ε α} (h : Alike R (.ok a) y) :
    ∃ b, y = .ok b ∧ R a b := by
  cases h with
  | ok h => exact ⟨_, rfl, h⟩

/-- The same steps in another order give the same in another order, if only one failure can come
from them. -/
lemma alike_mapM_of_perm {f : α → Except ε β} {as as' : List α} (h : as.Perm as')
    (hsame : ∀ a ∈ as, ∀ a' ∈ as, ∀ e e', f a = .error e → f a' = .error e' → e = e') :
    Alike List.Perm (as.mapM f) (as'.mapM f) := by
  cases hread : as.mapM f with
  | ok bs =>
    obtain ⟨bs', hread', hperm⟩ := List.perm_comp_forall₂ h.symm (forall₂_of_mapM hread)
    rw [mapM_of_forall₂ hread']
    exact .ok hperm.symm
  | error e =>
    obtain ⟨a, ha, hfail⟩ := exists_of_mapM_error hread
    cases hread' : as'.mapM f with
    | ok bs =>
      obtain ⟨b, hb⟩ := exists_mapM_eq_ok_iff.1 ⟨bs, hread'⟩ a (h.mem_iff.1 ha)
      rw [hb] at hfail
      simp at hfail
    | error e' =>
      obtain ⟨a', ha', hfail'⟩ := exists_of_mapM_error hread'
      rw [hsame a ha a' (h.mem_iff.2 ha') e e' hfail hfail']
      exact .error e'

@[simp] lemma mapM_nil_ok {f : α → Except ε β} : ([] : List α).mapM f = .ok [] := rfl

end ImageTags
