import ImageTags.Event.Context
import Mathlib.Tactic.Lemma

/-!
# Which refs are of which kind

A ref is a branch or a tag by what it starts with, and what follows is the name.  A pull request is
meant to be a number between `refs/pull/` and one of the ends `/merge` and `/head`.  Everything that
starts with `refs/pull/` is read as one, though, and the number is then whatever follows, without
one of the two ends if it has one.

* `RefKind.Describes` — the kind that a ref is meant to have, and `NamesPullRequest` the refs of
  pull requests.
* `RefKind.ReadAs` — the table by which refs are read.
* **`RefKind.ofRef_by_form`** — refs are read by that table.  What comes out is the kind that a ref
  is meant to have, unless the ref starts like that of a pull request and is none.
-/

namespace ImageTags

open Text

/-! ## The kinds that refs are meant to have -/

/-- Whether a ref is that of a pull request: the number of the pull request stands between the
beginning and one of two ends. -/
structure NamesPullRequest (ref number : String) : Prop where
  ne_empty : number ≠ ""
  digits : ∀ c ∈ number.toList, c.isDigit = true
  form : ref = "refs/pull/" ++ number ++ "/merge" ∨ ref = "refs/pull/" ++ number ++ "/head"

/-- The kind that a ref is meant to have. -/
inductive RefKind.Describes (ref : String) : RefKind → Prop
  | branch {name : String} (h : ref = "refs/heads/" ++ name) : Describes ref (.branch name)
  | tag {name : String} (h : ref = "refs/tags/" ++ name) : Describes ref (.tag name)
  | pullRequest {number : String} (h : NamesPullRequest ref number) :
      Describes ref (.pullRequest number)
  | other (hbranch : ∀ name, ref ≠ "refs/heads/" ++ name)
      (htag : ∀ name, ref ≠ "refs/tags/" ++ name)
      (hpull : ∀ number, ¬ NamesPullRequest ref number) : Describes ref .other

/-! ## The kinds that refs are read as -/

/-- Whether a text ends like the ref of a pull request. -/
def EndsAsPullRequest (rest : String) : Prop :=
  ∃ before, rest = before ++ "/merge" ∨ rest = before ++ "/head"

/-- The kind that a ref is read as: what follows `refs/pull/` need be no number, and neither of the
two ends need be there. -/
inductive RefKind.ReadAs (ref : String) : RefKind → Prop
  | branch {name : String} (h : ref = "refs/heads/" ++ name) : ReadAs ref (.branch name)
  | tag {name : String} (h : ref = "refs/tags/" ++ name) : ReadAs ref (.tag name)
  | merge {number : String} (h : ref = "refs/pull/" ++ (number ++ "/merge")) :
      ReadAs ref (.pullRequest number)
  | head {number : String} (h : ref = "refs/pull/" ++ (number ++ "/head")) :
      ReadAs ref (.pullRequest number)
  | bare {number : String} (h : ref = "refs/pull/" ++ number)
      (hends : ¬ EndsAsPullRequest number) : ReadAs ref (.pullRequest number)
  | other (hbranch : ∀ name, ref ≠ "refs/heads/" ++ name)
      (htag : ∀ name, ref ≠ "refs/tags/" ++ name)
      (hpull : ∀ rest, ref ≠ "refs/pull/" ++ rest) : ReadAs ref .other

/-! ### The number of a pull request -/

lemma pullRequestNumber_merge (number : String) :
    pullRequestNumber (number ++ "/merge") = number := by
  rw [pullRequestNumber, beforeEnd?_eq_some_iff.2 rfl]
  rfl

lemma pullRequestNumber_head (number : String) :
    pullRequestNumber (number ++ "/head") = number := by
  have hmerge : beforeEnd? "/merge" (number ++ "/head") = none := by
    rw [Option.eq_none_iff_forall_ne_some]
    intro before h
    -- the last letters differ
    have hlast := congrArg (fun s => s.toList.getLast?) (beforeEnd?_eq_some_iff.1 h)
    simp at hlast
  rw [pullRequestNumber, hmerge, beforeEnd?_eq_some_iff.2 rfl]
  rfl

lemma pullRequestNumber_of_not_ends {rest : String} (h : ¬ EndsAsPullRequest rest) :
    pullRequestNumber rest = rest := by
  have hmerge : beforeEnd? "/merge" rest = none := by
    rw [Option.eq_none_iff_forall_ne_some]
    intro before hbefore
    exact h ⟨before, Or.inl (beforeEnd?_eq_some_iff.1 hbefore)⟩
  have hhead : beforeEnd? "/head" rest = none := by
    rw [Option.eq_none_iff_forall_ne_some]
    intro before hbefore
    exact h ⟨before, Or.inr (beforeEnd?_eq_some_iff.1 hbefore)⟩
  rw [pullRequestNumber, hmerge, hhead]
  rfl

/-! ### The table -/

namespace RefKind

lemma ofRef_heads (name : String) : ofRef ("refs/heads/" ++ name) = .branch name := by
  simp [ofRef, afterStart?, stripStart?]

lemma ofRef_tags (name : String) : ofRef ("refs/tags/" ++ name) = .tag name := by
  simp [ofRef, afterStart?, stripStart?]

lemma ofRef_pull (rest : String) :
    ofRef ("refs/pull/" ++ rest) = .pullRequest (pullRequestNumber rest) := by
  simp [ofRef, afterStart?, stripStart?]

variable {ref : String} {kind : RefKind}

lemma ofRef_of_readAs (h : ReadAs ref kind) : ofRef ref = kind := by
  cases h with
  | branch h => rw [h, ofRef_heads]
  | tag h => rw [h, ofRef_tags]
  | merge h => rw [h, ofRef_pull, pullRequestNumber_merge]
  | head h => rw [h, ofRef_pull, pullRequestNumber_head]
  | bare h hends => rw [h, ofRef_pull, pullRequestNumber_of_not_ends hends]
  | other hbranch htag hpull =>
    have hnone : ∀ start, (∀ rest, ref ≠ start ++ rest) → afterStart? start ref = none := by
      intro start hstart
      rw [Option.eq_none_iff_forall_ne_some]
      exact fun rest hrest => hstart rest (afterStart?_eq_some_iff.1 hrest)
    rw [ofRef, hnone _ hbranch, hnone _ htag, hnone _ hpull]

lemma exists_readAs (ref : String) : ∃ kind, ReadAs ref kind := by
  by_cases hbranch : ∃ name, ref = "refs/heads/" ++ name
  · obtain ⟨name, hname⟩ := hbranch
    exact ⟨_, .branch hname⟩
  by_cases htag : ∃ name, ref = "refs/tags/" ++ name
  · obtain ⟨name, hname⟩ := htag
    exact ⟨_, .tag hname⟩
  by_cases hpull : ∃ rest, ref = "refs/pull/" ++ rest
  · obtain ⟨rest, hrest⟩ := hpull
    by_cases hends : EndsAsPullRequest rest
    · obtain ⟨number, rfl | rfl⟩ := hends
      · exact ⟨_, .merge hrest⟩
      · exact ⟨_, .head hrest⟩
    · exact ⟨_, .bare hrest hends⟩
  · exact ⟨_, .other (not_exists.1 hbranch) (not_exists.1 htag) (not_exists.1 hpull)⟩

/-- **A ref is read by the table.** -/
theorem ofRef_eq_iff_readAs : ofRef ref = kind ↔ ReadAs ref kind := by
  constructor
  · rintro rfl
    obtain ⟨kind, hkind⟩ := exists_readAs ref
    rwa [ofRef_of_readAs hkind]
  · exact ofRef_of_readAs

/-! ## What the table has to do with the meaning -/

/-- The ref of a pull request is read as that pull request. -/
lemma ofRef_of_namesPullRequest {number : String} (h : NamesPullRequest ref number) :
    ofRef ref = .pullRequest number := by
  rcases h.form with hmerge | hhead
  · rw [String.append_assoc] at hmerge
    exact ofRef_of_readAs (.merge hmerge)
  · rw [String.append_assoc] at hhead
    exact ofRef_of_readAs (.head hhead)

/-- A ref that does not start like that of a pull request, or is one, is of the kind that it is read
as. -/
lemma describes_ofRef
    (h : ∀ rest, ref = "refs/pull/" ++ rest → ∃ number, NamesPullRequest ref number) :
    Describes ref (ofRef ref) := by
  have hpull : (∃ rest, ref = "refs/pull/" ++ rest) → Describes ref (ofRef ref) := by
    rintro ⟨rest, hrest⟩
    obtain ⟨number, hnumber⟩ := h rest hrest
    rw [ofRef_of_namesPullRequest hnumber]
    exact .pullRequest hnumber
  obtain ⟨kind, hkind⟩ := exists_readAs ref
  cases hkind with
  | branch hbranch =>
    rw [ofRef_of_readAs (.branch hbranch)]
    exact .branch hbranch
  | tag htag =>
    rw [ofRef_of_readAs (.tag htag)]
    exact .tag htag
  | merge hmerge => exact hpull ⟨_, hmerge⟩
  | head hhead => exact hpull ⟨_, hhead⟩
  | bare hbare hends => exact hpull ⟨_, hbare⟩
  | other hbranch htag hnone =>
    rw [ofRef_of_readAs (.other hbranch htag hnone)]
    refine .other hbranch htag fun number hnumber => ?_
    have hread := ofRef_of_namesPullRequest hnumber
    rw [ofRef_of_readAs (.other hbranch htag hnone)] at hread
    simp at hread

/-- Of such a ref nothing else is meant. -/
lemma ofRef_of_describes
    (h : ∀ rest, ref = "refs/pull/" ++ rest → ∃ number, NamesPullRequest ref number)
    (hkind : Describes ref kind) : ofRef ref = kind := by
  cases hkind with
  | branch hbranch => exact ofRef_of_readAs (.branch hbranch)
  | tag htag => exact ofRef_of_readAs (.tag htag)
  | pullRequest hnumber => exact ofRef_of_namesPullRequest hnumber
  | other hbranch htag hnone =>
    refine ofRef_of_readAs (.other hbranch htag fun rest hrest => ?_)
    obtain ⟨number, hnumber⟩ := h rest hrest
    exact hnone number hnumber

/-- **The kind of a ref.**  It is a branch or a tag exactly by what it starts with, and a pull
request by what it starts with as well, whatever follows.  So the kind is the one that the ref is
meant to have, unless the ref starts like that of a pull request and is none. -/
theorem ofRef_by_form (ref : String) :
    (∀ kind, ofRef ref = kind ↔ ReadAs ref kind) ∧
    ((∀ kind, ofRef ref = kind ↔ Describes ref kind) ↔
      ∀ rest, ref = "refs/pull/" ++ rest → ∃ number, NamesPullRequest ref number) := by
  refine ⟨fun kind => ofRef_eq_iff_readAs, fun hkinds rest hrest => ?_, fun h kind => ?_⟩
  · have hread : ofRef ref = .pullRequest (pullRequestNumber rest) := by rw [hrest, ofRef_pull]
    cases (hkinds _).1 hread with
    | pullRequest hnumber => exact ⟨_, hnumber⟩
  · constructor
    · rintro rfl
      exact describes_ofRef h
    · exact ofRef_of_describes h

/-- A number without an end behind it is read as a pull request, and it is meant to be of no kind
that rules ask for. -/
theorem ofRef_of_bare_number : ofRef "refs/pull/15" = .pullRequest "15" ∧
    Describes "refs/pull/15" .other ∧ ¬ Describes "refs/pull/15" (.pullRequest "15") := by
  have hread : ofRef "refs/pull/15" = .pullRequest "15" := by decide
  have hnone : ∀ number, ¬ NamesPullRequest "refs/pull/15" number := by
    intro number hnumber
    -- the number could only be the one that is read
    have hsame := hread.symm.trans (ofRef_of_namesPullRequest hnumber)
    rw [← RefKind.pullRequest.inj hsame] at hnumber
    exact absurd hnumber.form (by decide)
  refine ⟨hread, .other (fun name hname => ?_) (fun name hname => ?_) hnone, ?_⟩
  · have hbranch := ofRef_heads name
    rw [← hname, hread] at hbranch
    simp at hbranch
  · have htag := ofRef_tags name
    rw [← hname, hread] at htag
    simp at htag
  · intro hmeant
    cases hmeant with
    | pullRequest hnumber => exact hnone _ hnumber

end RefKind

end ImageTags
