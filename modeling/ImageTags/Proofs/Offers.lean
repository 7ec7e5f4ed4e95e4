import Mathlib.Tactic.Lemma
import ImageTags.Flavor

/-!
# What a run of offers leaves behind

`Selection.add` takes one offer; a selection is what a run of them leaves behind.  Here the state
after a run is given at once: an offer without a value counts for nothing, the first that counts is
the main one, a later one with the same candidate is dropped, and the first opinion of an offer
that counts stands, dropped or not.

Names are treated alike: `ImageVersion.addName` puts one name behind others unless it is there, and
a run of names leaves each of them once, where it first came (`foldl_addName`).

* `Selection.candidates_ofOffers`, `Selection.latest_ofOffers` — the state after a run.
* `Selection.main?_add`, `Selection.main?_foldl_add` — one offer and a run keep the main candidate.
* **`Selection.standing_of_offers`** — what stands, told by the offers themselves.
-/

namespace ImageTags

/-- Whether an offer counts: it has a value. -/
def Offer.counts (o : Offer) : Bool := o.candidate.value ≠ ""

/-- The candidates of the offers that count, in the order in which they came. -/
def Offer.countingCandidates (offers : List Offer) : List Candidate :=
  (offers.filter Offer.counts).map Offer.candidate

lemma Offer.counts_eq_true_iff {o : Offer} : o.counts = true ↔ o.candidate.value ≠ "" := by
  simp [counts]

lemma Offer.counts_eq_false_iff {o : Offer} : o.counts = false ↔ o.candidate.value = "" := by
  simp [counts]

/-- Whether a candidate differs from another, in its value or in a text beside it. -/
def Candidate.DiffersFrom (c d : Candidate) : Prop :=
  c.value ≠ d.value ∨ c.front ≠ d.front ∨ c.back ≠ d.back

instance (c d : Candidate) : Decidable (c.DiffersFrom d) :=
  inferInstanceAs (Decidable (_ ∨ _ ∨ _))

lemma Candidate.differsFrom_iff {c d : Candidate} : c.DiffersFrom d ↔ c ≠ d := by
  obtain ⟨value, front, back⟩ := c
  obtain ⟨value', front', back'⟩ := d
  simp only [DiffersFrom, ne_eq, mk.injEq]
  grind

namespace Selection

/-! ## One offer -/

@[simp] lemma add_of_not_counts {s : Selection} {o : Offer} (h : o.counts = false) :
    s.add o = s := by
  rw [add, if_pos (Offer.counts_eq_false_iff.1 h)]

@[simp] lemma add_of_counts {s : Selection} {o : Offer} (h : o.counts = true) :
    s.add o = ⟨addCandidate o.candidate s.candidates, s.latest.or o.latest⟩ := by
  rw [add, if_neg (Offer.counts_eq_true_iff.1 h)]

/-- A main candidate that is there stays; else the offer brings it, if it counts. -/
lemma main?_add (s : Selection) (o : Offer) :
    (s.add o).main? = s.main?.or (if o.counts then some o.candidate else none) := by
  cases ho : o.counts with
  | false => simp [ho]
  | true =>
    rw [add_of_counts ho, main?, main?]
    cases s.candidates with
    | nil => rfl
    | cons main others =>
      rw [addCandidate]
      split <;> rfl

/-! ## A run of offers -/

/-- Once there is a main candidate it stays, and only candidates other than it are added. -/
lemma candidates_foldl_add {s : Selection} {main : Candidate} {others : List Candidate}
    (h : s.candidates = main :: others) (offers : List Offer) :
    (offers.foldl add s).candidates =
      main :: (others ++ (Offer.countingCandidates offers).filter (· ≠ main)) := by
  induction offers generalizing s others with
  | nil => simp [h, Offer.countingCandidates]
  | cons o offers ih =>
    rw [List.foldl_cons]
    cases ho : o.counts with
    | false => simp [ih h, ho, Offer.countingCandidates]
    | true =>
      rw [add_of_counts ho, h]
      by_cases hmain : o.candidate = main
      · have hadd : addCandidate o.candidate (main :: others) = main :: others := by
          simp [addCandidate, hmain]
        rw [ih hadd]
        simp [Offer.countingCandidates, ho, hmain]
      · have hadd : addCandidate o.candidate (main :: others) =
            main :: (others ++ [o.candidate]) := by
          simp [addCandidate, hmain]
        rw [ih hadd]
        simp [Offer.countingCandidates, ho, hmain]

/-- **The candidates after a run of offers**: the first one, and the later ones that differ
from it. -/
theorem candidates_ofOffers (offers : List Offer) :
    (ofOffers offers).candidates =
      match Offer.countingCandidates offers with
      | [] => []
      | main :: later => main :: later.filter (· ≠ main) := by
  induction offers with
  | nil => rfl
  | cons o offers ih =>
    rw [ofOffers, List.foldl_cons]
    cases ho : o.counts with
    | false =>
      rw [add_of_not_counts ho]
      simpa [Offer.countingCandidates, ho, ofOffers] using ih
    | true =>
      have hfirst : addCandidate o.candidate empty.candidates = [o.candidate] := rfl
      rw [add_of_counts ho, candidates_foldl_add hfirst]
      simp [Offer.countingCandidates, ho]

/-- An opinion that stands is kept; without one the first opinion of an offer that counts is. -/
lemma latest_foldl_add (s : Selection) (offers : List Offer) :
    (offers.foldl add s).latest =
      s.latest.or ((offers.filter Offer.counts).findSome? Offer.latest) := by
  induction offers generalizing s with
  | nil => simp
  | cons o offers ih =>
    rw [List.foldl_cons, ih]
    cases ho : o.counts with
    | false => simp [ho]
    | true =>
      rw [add_of_counts ho, List.filter_cons_of_pos ho, List.findSome?_cons]
      cases s.latest <;> cases o.latest <;> simp

/-- **The opinion that stands after a run of offers** is the first one of an offer that counts. -/
theorem latest_ofOffers (offers : List Offer) :
    (ofOffers offers).latest = (offers.filter Offer.counts).findSome? Offer.latest := by
  rw [ofOffers, latest_foldl_add]
  rfl

/-! ## What stands -/

/-- An offer that does not count can be left out of a run. -/
lemma ofOffers_of_not_counts {o : Offer} (h : o.counts = false) (before after : List Offer) :
    ofOffers (before ++ o :: after) = ofOffers (before ++ after) := by
  rw [ofOffers, ofOffers, List.foldl_append, List.foldl_append, List.foldl_cons,
    add_of_not_counts h]

/-- Before the first offer that counts there is no candidate of one that does. -/
lemma countingCandidates_of_first {before after : List Offer} {first : Offer}
    (hbefore : ∀ o ∈ before, o.counts = false) (hfirst : first.counts = true) :
    Offer.countingCandidates (before ++ first :: after) =
      first.candidate :: Offer.countingCandidates after := by
  have hnone : before.filter Offer.counts = [] := by
    rw [List.filter_eq_nil_iff]
    intro o ho
    simp [hbefore o ho]
  rw [Offer.countingCandidates, List.filter_append, hnone, List.filter_cons_of_pos hfirst]
  rfl

/-- A main candidate that is there stays in a run of offers. -/
lemma main?_foldl_add (s : Selection) (offers : List Offer) :
    (offers.foldl add s).main? = s.main?.or (ofOffers offers).main? := by
  induction offers generalizing s with
  | nil => exact (Option.or_none).symm
  | cons o offers ih =>
    have hnone : empty.main? = none := rfl
    rw [ofOffers, List.foldl_cons, List.foldl_cons, ih, ih, main?_add, main?_add, hnone,
      Option.none_or, Option.or_assoc]

/-- Some offer is the first that counts, or none of them does. -/
lemma exists_first_counting (offers : List Offer) :
    (∀ o ∈ offers, o.counts = false) ∨
      ∃ before first after, offers = before ++ first :: after ∧
        (∀ o ∈ before, o.counts = false) ∧ first.counts = true := by
  cases hfind : offers.find? Offer.counts with
  | none => exact Or.inl fun o ho => by simpa using List.find?_eq_none.1 hfind o ho
  | some first =>
    obtain ⟨hfirst, before, after, heq, hbefore⟩ := List.find?_eq_some_iff_append.1 hfind
    exact Or.inr ⟨before, first, after, heq, fun o ho => by simpa using hbefore o ho, hfirst⟩

/-- **What a run of offers leaves behind.**  If no offer has a value there is no candidate.  Else the
first that has one brings the main candidate, and the others are those of the offers after it that
have a value and differ from the main one, each as often as it came.  The opinion that stands is the
first one of an offer with a value, whether its candidate was dropped or not.  A main candidate and
an opinion that are there stay, whatever is offered later. -/
theorem standing_of_offers (offers : List Offer) :
    ((∀ o ∈ offers, o.candidate.value = "") ∧
        (ofOffers offers).main? = none ∧ (ofOffers offers).others = [] ∨
      ∃ before first after, offers = before ++ first :: after ∧
        (∀ o ∈ before, o.candidate.value = "") ∧ first.candidate.value ≠ "" ∧
        (ofOffers offers).main? = some first.candidate ∧
        (ofOffers offers).others = (after.map Offer.candidate).filter fun c =>
          c.value ≠ "" ∧ c.DiffersFrom first.candidate) ∧
    (ofOffers offers).latest =
      (offers.filter fun o => o.candidate.value ≠ "").findSome? Offer.latest ∧
    ∀ later,
      (ofOffers (offers ++ later)).main? = (ofOffers offers).main?.or (ofOffers later).main? ∧
      (ofOffers (offers ++ later)).latest = (ofOffers offers).latest.or (ofOffers later).latest := by
  refine ⟨?_, latest_ofOffers offers, fun later => ⟨?_, ?_⟩⟩
  · have hcandidates := candidates_ofOffers offers
    rcases exists_first_counting offers with hnone | ⟨before, first, after, rfl, hbefore, hfirst⟩
    · have hnil : Offer.countingCandidates offers = [] := by
        rw [Offer.countingCandidates, List.map_eq_nil_iff, List.filter_eq_nil_iff]
        simpa using hnone
      rw [hnil] at hcandidates
      rw [main?, others, hcandidates]
      exact Or.inl ⟨fun o ho => Offer.counts_eq_false_iff.1 (hnone o ho), rfl, rfl⟩
    · rw [countingCandidates_of_first hbefore hfirst] at hcandidates
      refine Or.inr ⟨before, first, after, rfl,
        fun o ho => Offer.counts_eq_false_iff.1 (hbefore o ho),
        Offer.counts_eq_true_iff.1 hfirst, ?_, ?_⟩
      · rw [main?, hcandidates]
        rfl
      · rw [others, hcandidates, List.tail_cons, Offer.countingCandidates, List.filter_map,
          List.filter_filter, List.filter_map]
        refine congrArg _ (List.filter_congr fun o _ => ?_)
        simp [Offer.counts, Candidate.differsFrom_iff, Bool.and_comm]
  · rw [ofOffers, List.foldl_append, main?_foldl_add]
    rfl
  · rw [ofOffers, List.foldl_append, latest_foldl_add, ← latest_ofOffers]
    rfl

-- The opinion comes with an offer whose candidate is dropped for being the main one.
example : ofOffers [⟨⟨"", none, none⟩, some true⟩, ⟨⟨"a", none, none⟩, none⟩,
      ⟨⟨"a", some "x", none⟩, none⟩, ⟨⟨"a", none, none⟩, some false⟩,
      ⟨⟨"a", some "x", none⟩, some true⟩] =
    ⟨[⟨"a", none, none⟩, ⟨"a", some "x", none⟩, ⟨"a", some "x", none⟩], some false⟩ := by decide

end Selection

/-! ## Names -/

namespace ImageVersion

/-- Adding a name to names without repetitions leaves them without repetitions. -/
lemma addName_eraseDups (names : List String) (name : String) :
    addName names.eraseDups name = (names ++ [name]).eraseDups := by
  rw [List.eraseDups_append, addName]
  by_cases h : name ∈ names
  · simp [List.mem_eraseDups, h, List.removeAll]
  · simp [List.mem_eraseDups, h, List.removeAll, List.eraseDups_cons]

/-- **A run of names leaves each of them once**, where it first came. -/
theorem foldl_addName (names later : List String) :
    later.foldl addName names.eraseDups = (names ++ later).eraseDups := by
  induction later generalizing names with
  | nil => simp
  | cons name later ih => rw [List.foldl_cons, addName_eraseDups, ih]; simp

/-- A candidate that was dropped for being the main one would not have given a new name. -/
lemma eraseDups_cons_map_filter {α : Type} [DecidableEq α] (name : α → String) (main : α)
    (later : List α) (rest : List String) :
    (name main :: ((later.filter (· ≠ main)).map name ++ rest)).eraseDups =
      (name main :: (later.map name ++ rest)).eraseDups := by
  rw [List.eraseDups_cons, List.eraseDups_cons, List.filter_append, List.filter_append]
  congr 3
  induction later with
  | nil => rfl
  | cons c later ih =>
    by_cases h : c = main
    · rw [List.filter_cons_of_neg (by simpa using h), ih]
      simp [h]
    · rw [List.filter_cons_of_pos (by simpa using h), List.map_cons, List.map_cons,
        List.filter_cons, List.filter_cons, ih]

end ImageVersion

end ImageTags
