import Mathlib.Tactic.Lemma
import ImageTags.Rule.Order

/-!
# The order of use

`TagRule.inOrder` sorts; what it is to be sorted is said here without a sorting algorithm.  A list
of rules is *in the order of use* for the rules as they were written if the priorities never rise
and, at each priority, the rules are those that were written with it, in the same order.

* `inPriorityOrder_inOrder` — sorting gives such a list.
* **`inPriorityOrder_iff`** — there is no other, so the order of use does not depend on how it is
  found.
-/

namespace ImageTags.TagRule

variable [Pattern.Engine]

/-- The rules `used` are the rules `written`, from the highest priority down, and those of one
priority in the order in which they were written. -/
structure InPriorityOrder (written used : List TagRule) : Prop where
  descending : used.Pairwise fun r s => s.priority ≤ r.priority
  ties : ∀ p : Int, used.filter (·.priority = p) = written.filter (·.priority = p)

/-! ## Sorting -/

lemma priority_le_trans (a b c : TagRule) (hab : decide (b.priority ≤ a.priority) = true)
    (hbc : decide (c.priority ≤ b.priority) = true) : decide (c.priority ≤ a.priority) = true := by
  simp only [decide_eq_true_eq] at hab hbc ⊢
  omega

lemma priority_le_total (a b : TagRule) :
    (decide (b.priority ≤ a.priority) || decide (a.priority ≤ b.priority)) = true := by
  simp only [Bool.or_eq_true, decide_eq_true_eq]
  omega

/-- Sorting keeps the rules of one priority as they are.  They form a sorted part of what was
written, which a stable sort never takes apart; as nothing is lost, the part is all there is. -/
lemma filter_priority_inOrder (rules : List TagRule) (p : Int) :
    (inOrder rules).filter (·.priority = p) = rules.filter (·.priority = p) := by
  have hsorted : (rules.filter (·.priority = p)).Pairwise
      fun r s => decide (s.priority ≤ r.priority) = true := by
    refine List.pairwise_filter.2 (List.pairwise_iff_forall_sublist.2 fun {a b} _ ha hb => ?_)
    simp only [decide_eq_true_eq] at ha hb ⊢
    omega
  have hsub : (rules.filter (·.priority = p)).Sublist (inOrder rules) :=
    List.sublist_mergeSort priority_le_trans priority_le_total hsorted List.filter_sublist
  have hfilter : (rules.filter (·.priority = p)).Sublist
      ((inOrder rules).filter (·.priority = p)) := by
    have h := hsub.filter (·.priority = p)
    rwa [List.filter_filter, show (fun r : TagRule => decide (r.priority = p) &&
      decide (r.priority = p)) = fun r => decide (r.priority = p) by simp] at h
  refine (hfilter.eq_of_length ?_).symm
  exact ((List.mergeSort_perm rules _).filter _).length_eq.symm

/-- Sorting puts rules into the order of use. -/
theorem inPriorityOrder_inOrder (rules : List TagRule) :
    InPriorityOrder rules (inOrder rules) where
  descending := by
    have h := List.pairwise_mergeSort priority_le_trans priority_le_total rules
    exact h.imp fun hrs => of_decide_eq_true hrs
  ties := filter_priority_inOrder rules

/-! ## Uniqueness -/

/-- The rule in front has the highest priority of all. -/
lemma le_priority_of_descending {r s : TagRule} {rules : List TagRule}
    (h : (r :: rules).Pairwise fun r s => s.priority ≤ r.priority) (hs : s ∈ r :: rules) :
    s.priority ≤ r.priority := by
  rcases List.mem_cons.1 hs with rfl | hs
  · exact Int.le_refl _
  · exact (List.pairwise_cons.1 h).1 s hs

/-- Rules are found again in a list that has the same rules at each priority. -/
lemma mem_of_ties {r : TagRule} {rules others : List TagRule}
    (h : ∀ p : Int, rules.filter (·.priority = p) = others.filter (·.priority = p))
    (hr : r ∈ rules) : r ∈ others := by
  have hmem : r ∈ rules.filter (·.priority = r.priority) := by simp [hr]
  rw [h] at hmem
  exact (List.mem_filter.1 hmem).1

/-- Two lists in which priorities never rise are equal if they have the same rules at each
priority: the two rules in front have the same priority, hence are the same, and so on. -/
lemma eq_of_ties {rules others : List TagRule}
    (hrules : rules.Pairwise fun r s => s.priority ≤ r.priority)
    (hothers : others.Pairwise fun r s => s.priority ≤ r.priority)
    (h : ∀ p : Int, rules.filter (·.priority = p) = others.filter (·.priority = p)) :
    rules = others := by
  induction rules generalizing others with
  | nil =>
    refine (List.eq_nil_iff_forall_not_mem.2 fun r hr => ?_).symm
    simpa using mem_of_ties (fun p => (h p).symm) hr
  | cons r rules ih =>
    cases others with
    | nil => simpa using mem_of_ties h List.mem_cons_self
    | cons s others =>
      have hrs := le_priority_of_descending hothers (mem_of_ties h List.mem_cons_self)
      have hsr := le_priority_of_descending hrules
        (mem_of_ties (fun p => (h p).symm) List.mem_cons_self)
      have hfront := h r.priority
      rw [List.filter_cons_of_pos (by simp),
        List.filter_cons_of_pos (by simpa using Int.le_antisymm hsr hrs)] at hfront
      obtain ⟨rfl, -⟩ := List.cons.inj hfront
      congr 1
      refine ih (List.pairwise_cons.1 hrules).2 (List.pairwise_cons.1 hothers).2 fun p => ?_
      have hp := h p
      by_cases hrp : r.priority = p
      · rw [List.filter_cons_of_pos (by simpa using hrp),
          List.filter_cons_of_pos (by simpa using hrp)] at hp
        exact (List.cons.inj hp).2
      · rwa [List.filter_cons_of_neg (by simpa using hrp),
          List.filter_cons_of_neg (by simpa using hrp)] at hp

/-- **The order of use is unique.** -/
theorem inPriorityOrder_iff {written used : List TagRule} :
    InPriorityOrder written used ↔ used = inOrder written := by
  constructor
  · rintro ⟨hdescending, hties⟩
    have hsorted := inPriorityOrder_inOrder written
    exact eq_of_ties hdescending hsorted.descending fun p => (hties p).trans (hsorted.ties p).symm
  · rintro rfl
    exact inPriorityOrder_inOrder written

end ImageTags.TagRule
