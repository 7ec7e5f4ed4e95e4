import Mathlib
import ImageTags.Calendar.Format

/-!
# How a date format is cut

A date format is cut into tokens and literal text from left to right.  `CutsOff` says what is cut
off first, without the table in which tokens are looked up: at an opening bracket the text up to the
next closing one, or all of it if there is none; anywhere else the longest token, and where no token
stands a single character.  `FormatCut` goes on in this way to the end.

* `DateToken.LongestAt` — the longest token at the start of a text; there is at most one.
* `DateToken.read?_eq_some_iff` — looking a token up in the table finds the longest.
* `firstSegment_of_cutsOff`, `formatCut_iff` — a format is cut in exactly one way.
* **`formatDate_by_segments`** — what a format makes of a clock reading.
-/

namespace ImageTags.Calendar

open Text

/-! ## The longest token -/

namespace DateToken

/-- Whether a token is the longest of those that a text starts with. -/
structure LongestAt (cs : List Char) (token : DateToken) : Prop where
  starts : token.text.toList <+: cs
  longest : ∀ other : DateToken, other.text.toList <+: cs → other.text.length ≤ token.text.length

variable {cs rest : List Char} {token : DateToken}

lemma mem_all (token : DateToken) : token ∈ all := by
  cases token <;> decide

/-- The longer tokens come first. -/
lemma pairwise_all :
    all.Pairwise fun token other => other.text.length ≤ token.text.length := by
  decide

lemma text_injective : Function.Injective text := by
  have hnodup : (all.map text).Nodup := by decide
  intro token other h
  exact List.inj_on_of_nodup_map hnodup (mem_all token) (mem_all other) h

/-- A text that starts with a token starts with the first letter of it. -/
lemma head?_of_starts {c : Char} (h : token.text.toList <+: c :: cs) :
    token.text.toList.head? = some c := by
  have hne : token.text.toList ≠ [] := by cases token <;> decide
  obtain ⟨d, letters, htext⟩ := List.exists_cons_of_ne_nil hne
  rw [htext, List.cons_prefix_cons] at h
  rw [htext, h.1, List.head?_cons]

lemma not_starts_bracket (token : DateToken) (cs : List Char) :
    ¬ token.text.toList <+: '[' :: cs := by
  intro h
  have hhead : token.text.toList.head? ≠ some '[' := by cases token <;> decide
  exact hhead (head?_of_starts h)

/-- A text starts with one longest token at most. -/
lemma LongestAt.unique {other : DateToken} (h : token.LongestAt cs) (h' : other.LongestAt cs) :
    token = other := by
  have hlength : token.text.toList.length = other.text.toList.length := by
    rw [String.length_toList, String.length_toList]
    exact le_antisymm (h'.longest token h.starts) (h.longest other h'.starts)
  have hsame : token.text.toList <+: other.text.toList :=
    List.prefix_of_prefix_length_le h.starts h'.starts hlength.le
  exact text_injective (String.toList_inj.1 (hsame.eq_of_length hlength))

/-- A token is found in the table unless the text starts with none. -/
lemma read?_eq_none_iff :
    read? cs = none ↔ ∀ token : DateToken, ¬ token.text.toList <+: cs := by
  rw [read?, List.findSome?_eq_none_iff]
  simp [mem_all, stripStart?_eq_none_iff]

/-- What is found in the table is the longest token: the tokens before it do not match, and those
behind it are no longer. -/
lemma longestAt_of_read? (h : read? cs = some (token, rest)) :
    cs = token.text.toList ++ rest ∧ token.LongestAt cs := by
  obtain ⟨before, first, after, hall, hfirst, hbefore⟩ := List.findSome?_eq_some_iff.1 h
  obtain ⟨rest', hstrip, heq⟩ := Option.map_eq_some_iff.1 hfirst
  obtain ⟨rfl, rfl⟩ := Prod.mk.inj heq
  have hcs := stripStart?_eq_some_iff.1 hstrip
  refine ⟨hcs, ⟨rest', hcs.symm⟩, fun other hother => ?_⟩
  have hmem := mem_all other
  rw [hall, List.mem_append, List.mem_cons] at hmem
  rcases hmem with hmem | rfl | hmem
  · have hnone := Option.map_eq_none_iff.1 (hbefore other hmem)
    exact absurd hother (stripStart?_eq_none_iff.1 hnone)
  · exact le_rfl
  · have hpairwise := pairwise_all
    rw [hall] at hpairwise
    exact (List.pairwise_cons.1 (List.pairwise_append.1 hpairwise).2.1).1 other hmem

/-- **Looking a token up finds the longest one**, and what follows it. -/
theorem read?_eq_some_iff :
    read? cs = some (token, rest) ↔ cs = token.text.toList ++ rest ∧ token.LongestAt cs := by
  refine ⟨longestAt_of_read?, ?_⟩
  rintro ⟨hcs, hlongest⟩
  cases hread : read? cs with
  | none => exact absurd hlongest.starts (read?_eq_none_iff.1 hread token)
  | some found =>
    obtain ⟨other, rest'⟩ := found
    obtain ⟨hother, hlongest'⟩ := longestAt_of_read? hread
    obtain rfl := hlongest.unique hlongest'
    rw [List.append_cancel_left (hcs.symm.trans hother)]

end DateToken

/-! ## Cutting -/

/-- The segment that a date format starts with, and what follows it. -/
inductive CutsOff : List Char → DateSegment → List Char → Prop
  | bracketed {inside rest : List Char} (hinside : ']' ∉ inside) :
      CutsOff ('[' :: (inside ++ ']' :: rest)) (.literal inside) rest
  | unclosed {rest : List Char} (hrest : ']' ∉ rest) :
      CutsOff ('[' :: rest) (.literal ('[' :: rest)) []
  | token {token : DateToken} {rest : List Char}
      (htoken : token.LongestAt (token.text.toList ++ rest)) :
      CutsOff (token.text.toList ++ rest) (.token token) rest
  | plain {c : Char} {rest : List Char} (hc : c ≠ '[')
      (hnone : ∀ token : DateToken, ¬ token.text.toList <+: c :: rest) :
      CutsOff (c :: rest) (.literal [c]) rest

/-- How a date format is cut into segments. -/
inductive FormatCut : List Char → List DateSegment → Prop
  | done : FormatCut [] []
  | step {cs rest : List Char} {first : DateSegment} {others : List DateSegment}
      (hfirst : CutsOff cs first rest) (hrest : FormatCut rest others) :
      FormatCut cs (first :: others)

lemma cutsOff_firstSegment (c : Char) (cs : List Char) :
    CutsOff (c :: cs) (firstSegment c cs).1 (firstSegment c cs).2 := by
  rw [firstSegment]
  by_cases hc : c = '['
  · subst hc
    rw [if_pos rfl]
    split
    · next inside rest hsplit =>
      obtain ⟨rfl, hinside⟩ := splitFirst?_eq_some_iff.1 hsplit
      exact .bracketed hinside
    · next hnone => exact .unclosed (splitFirst?_eq_none_iff.1 hnone)
  · rw [if_neg hc]
    split
    · next token rest hread =>
      obtain ⟨hcs, htoken⟩ := DateToken.read?_eq_some_iff.1 hread
      rw [hcs] at htoken ⊢
      exact .token htoken
    · next hnone => exact .plain hc (DateToken.read?_eq_none_iff.1 hnone)

/-- **A date format starts with one segment only**, the one that is cut off. -/
theorem firstSegment_of_cutsOff {c : Char} {cs rest : List Char} {first : DateSegment}
    (h : CutsOff (c :: cs) first rest) : firstSegment c cs = (first, rest) := by
  generalize hcs : c :: cs = format at h
  cases h with
  | bracketed hinside =>
    obtain ⟨rfl, rfl⟩ := List.cons.inj hcs
    rw [firstSegment, if_pos rfl, splitFirst?_eq_some_iff.2 ⟨rfl, hinside⟩]
  | unclosed hrest =>
    obtain ⟨rfl, rfl⟩ := List.cons.inj hcs
    rw [firstSegment, if_pos rfl, splitFirst?_eq_none_iff.2 hrest]
  | @token token _ htoken =>
    have hc : c ≠ '[' := by
      rintro rfl
      exact token.not_starts_bracket cs (hcs ▸ htoken.starts)
    rw [firstSegment, if_neg hc, hcs, DateToken.read?_eq_some_iff.2 ⟨rfl, htoken⟩]
  | plain hc hnone =>
    obtain ⟨rfl, rfl⟩ := List.cons.inj hcs
    rw [firstSegment, if_neg hc, DateToken.read?_eq_none_iff.2 hnone]

lemma not_cutsOff_nil {rest : List Char} {first : DateSegment} :
    ¬ CutsOff [] first rest := by
  intro h
  generalize hcs : ([] : List Char) = format at h
  cases h with
  | @token token _ htoken =>
    have hread := DateToken.read?_eq_some_iff.2 ⟨hcs, hcs ▸ htoken⟩
    simpa using DateToken.length_of_read? hread
  | _ => simp at hcs

/-- **A date format is cut in exactly one way.** -/
theorem formatCut_iff {cs : List Char} {s : List DateSegment} :
    FormatCut cs s ↔ s = segments cs := by
  constructor
  · intro h
    induction h with
    | done => rw [segments]
    | @step cs rest first others hfirst _ ih =>
      cases cs with
      | nil => exact absurd hfirst not_cutsOff_nil
      | cons c cs => rw [segments, firstSegment_of_cutsOff hfirst, ih]
  · rintro rfl
    fun_induction segments cs with
    | case1 => exact .done
    | case2 c cs ih => exact .step (cutsOff_firstSegment c cs) ih

/-! ## Plain text -/

/-- Whether a bracket or a token starts with a character. -/
def OpensSegment (c : Char) : Prop :=
  c = '[' ∨ ∃ token : DateToken, token.text.toList.head? = some c

/-- A format in which nothing opens a segment is cut into its characters. -/
lemma formatCut_of_plain {cs : List Char} (h : ∀ c ∈ cs, ¬ OpensSegment c) :
    FormatCut cs (cs.map fun c => .literal [c]) := by
  induction cs with
  | nil => exact .done
  | cons c cs ih =>
    obtain ⟨hc, hcs⟩ := List.forall_mem_cons.1 h
    obtain ⟨hbracket, htoken⟩ := not_or.1 hc
    have hnone : ∀ token : DateToken, ¬ token.text.toList <+: c :: cs :=
      fun token hstarts => htoken ⟨token, token.head?_of_starts hstarts⟩
    exact .step (.plain hbracket hnone) (ih hcs)

/-- **What a date format makes of a clock reading.**  The format is cut in exactly one way, into
brackets, longest tokens and single characters, and its segments are written one after the other.
A format in which nothing opens a bracket or a token is copied. -/
theorem formatDate_by_segments (format : List Char) : ∃ s : List DateSegment,
    (∀ s', FormatCut format s' ↔ s' = s) ∧
    (∀ r : ClockReading, formatDate r format = s.flatMap (·.render r)) ∧
    ((∀ c ∈ format, ¬ OpensSegment c) → ∀ r : ClockReading, formatDate r format = format) := by
  refine ⟨segments format, fun s' => formatCut_iff, fun r => rfl, fun hplain r => ?_⟩
  rw [formatDate, ← formatCut_iff.1 (formatCut_of_plain hplain), List.flatMap_map]
  simp [DateSegment.render]

/-- A bracket keeps its text from being read as tokens. -/
example : segments "[Do] Do DDo".toList =
    [.literal ['D', 'o'], .literal [' '], .token .ordinalDay, .literal [' '], .token .paddedDay,
      .literal ['o']] := by cbv

end ImageTags.Calendar
