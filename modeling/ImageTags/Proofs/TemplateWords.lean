import Mathlib
import ImageTags.Proofs.Ascii
import ImageTags.Proofs.TemplateCuts
import ImageTags.Proofs.Trim

/-!
# Templates of one word

A template may be nothing but one expression, and that expression nothing but a word, with blanks
around it or without.  Such a template stands for whatever the word stands for.

Reading goes in three steps: the marks of the expression are found, the text between them is cut
into words, and the first word is the name of the expression.

* `Template.read_word` — the expression that is read.
* `Template.render_expression` — a template that is nothing but one expression.
* **`Template.render_word`** — what the template stands for.
* `Template.isRawStatement_iff` — the templates that are nothing but the word `raw`.
-/

namespace ImageTags

open Text

namespace Template

/-- A letter from `a` to `z` is part of a word wherever it stands. -/
lemma of_isLower {c : Char} (h : c.isLower = true) :
    isBlank c = false ∧ isQuote c = false ∧ c ≠ '}' := by
  have hrange := isLower_iff.1 h
  refine ⟨?_, ?_, ?_⟩
  · rw [← Bool.not_eq_true, isBlank_iff]
    omega
  · rw [← Bool.not_eq_true, isQuote]
    simp only [Bool.or_eq_true, decide_eq_true_eq]
    rintro (rfl | rfl) <;> simp at hrange
  · rintro rfl
    simp at hrange

lemma wordsFrom_between_blanks {blanks : List Char} (h : allBlank blanks = true)
    (cs : List Char) : wordsFrom .between (blanks ++ cs) = wordsFrom .between cs := by
  induction blanks with
  | nil => rfl
  | cons c blanks ih =>
    simp only [allBlank, List.all_cons, Bool.and_eq_true] at h
    rw [List.cons_append, wordsFrom, if_pos h.1, ih h.2]

lemma wordsFrom_inside_blanks {blanks : List Char} (h : allBlank blanks = true) :
    wordsFrom .inside blanks = .ok ([], []) := by
  cases blanks with
  | nil => rfl
  | cons c blanks =>
    simp only [allBlank, List.all_cons, Bool.and_eq_true] at h
    have hrest := wordsFrom_between_blanks h.2 []
    rw [List.append_nil] at hrest
    rw [wordsFrom, if_pos h.1, hrest]
    rfl

/-- Characters that are neither blanks nor quotes belong to the word under way. -/
lemma wordsFrom_inside_append {word : List Char}
    (hword : ∀ c ∈ word, isBlank c = false ∧ isQuote c = false) (cs : List Char) :
    wordsFrom .inside (word ++ cs) =
      (wordsFrom .inside cs).map fun (rest, words) => (word ++ rest, words) := by
  induction word with
  | nil => cases hcs : wordsFrom .inside cs <;> simp [hcs, Except.map]
  | cons c word ih =>
    obtain ⟨⟨hblank, hquote⟩, hword⟩ := List.forall_mem_cons.1 hword
    rw [List.cons_append, wordsFrom, if_neg (by simp [hblank]), if_neg (by simp [hquote]), ih hword]
    cases wordsFrom .inside cs <;> rfl

/-- One word with blanks around it is an expression without arguments. -/
lemma read_word {inside : List Char} (hne : trim inside ≠ [])
    (hword : ∀ c ∈ trim inside, c.isLower = true) :
    Expression.read inside = .ok ⟨String.ofList (trim inside), [], []⟩ := by
  obtain ⟨before, after, heq, hbefore, hafter⟩ := exists_trim_append inside
  obtain ⟨c, cs, htrim⟩ := List.exists_cons_of_ne_nil hne
  rw [htrim] at hword heq ⊢
  obtain ⟨hc, hcs⟩ := List.forall_mem_cons.1 hword
  obtain ⟨hblank, hquote, -⟩ := of_isLower hc
  have hcs' : ∀ d ∈ cs, isBlank d = false ∧ isQuote d = false := by
    intro d hd
    obtain ⟨hblank, hquote, -⟩ := of_isLower (hcs d hd)
    exact ⟨hblank, hquote⟩
  have hwords : words inside = .ok [⟨c :: cs, false⟩] := by
    rw [words, heq, wordsFrom_between_blanks hbefore, List.cons_append, wordsFrom,
      if_neg (by simp [hblank]), if_neg (by simp [hquote]), wordsFrom_inside_append hcs',
      wordsFrom_inside_blanks hafter]
    simp [Except.map]
  rw [Expression.read, hwords]
  rfl

lemma not_mem_of_allBlank {c : Char} {blanks : List Char} (hc : isBlank c = false)
    (h : allBlank blanks = true) : c ∉ blanks := by
  intro hmem
  simp [List.all_eq_true.1 h c hmem] at hc

/-- Braces that close an expression are the first in a text that has none. -/
lemma not_closing_of_not_mem {inside : List Char} (h : '}' ∉ inside) :
    ¬ closing <:+: inside ++ closing.dropLast :=
  ((splitAtText?_eq_some_iff closing_ne_nil).1 (splitAtText?_append h [])).2

/-- **A template that is one expression stands for its value.** -/
theorem render_expression {scope : Scope} {template : String} {inside : List Char} {e : Expression}
    (htemplate : template.toList = opening ++ (inside ++ closing))
    (hclose : ¬ closing <:+: inside ++ closing.dropLast)
    (hread : Expression.read inside = .ok e) :
    render scope template = (scope e).mapError (.template template) := by
  have hopen : ¬ opening <:+: [] ++ opening.dropLast := by decide
  have hrest : Cuts [] ⟨[.literal ""], none⟩ := .plain (by decide)
  have hsegment : segment (opening ++ (inside ++ closing)) =
      ⟨[.literal "", .expression e, .literal ""], none⟩ := by
    simpa using (Cuts.expression hopen hclose hread hrest).segment_eq
  rw [render, htemplate, hsegment]
  cases hscope : scope e <;>
    simp [Segmentation.render, renderPieces, Piece.render, hscope, bind, Except.bind]

/-- **A template of one word stands for the value of that word.** -/
theorem render_word {scope : Scope} {template text : String} {inside : List Char}
    (htemplate : template.toList = opening ++ (inside ++ closing)) (hne : trim inside ≠ [])
    (hword : ∀ c ∈ trim inside, c.isLower = true)
    (hscope : scope ⟨String.ofList (trim inside), [], []⟩ = .ok text) :
    render scope template = .ok text := by
  have hmark : '}' ∉ inside := by
    obtain ⟨before, after, heq, hbefore, hafter⟩ := exists_trim_append inside
    have hinner : '}' ∉ trim inside := fun hmem => (of_isLower (hword '}' hmem)).2.2 rfl
    have hblank : isBlank '}' = false := by decide
    rw [heq]
    simp [not_mem_of_allBlank hblank hbefore, not_mem_of_allBlank hblank hafter, hinner]
  rw [render_expression htemplate (not_closing_of_not_mem hmark) (read_word hne hword), hscope,
    mapError_ok]

/-! ## The word `raw` -/

/-- Whether a template is nothing but one expression, and that one nothing but the word `raw`, with
blanks around it or without. -/
def IsLoneRaw (template : String) : Prop :=
  ∃ before after, allBlank before = true ∧ allBlank after = true ∧
    template.toList = opening ++ (before ++ (['r', 'a', 'w'] ++ after) ++ closing)

/-- The word is what is left without the blanks around it. -/
lemma trim_raw {before after : List Char} (hbefore : allBlank before = true)
    (hafter : allBlank after = true) :
    trim (before ++ (['r', 'a', 'w'] ++ after)) = ['r', 'a', 'w'] := by
  have hlower : ['r', 'a', 'w'].all Char.isLower = true := by decide
  have htrimmed := trimmed_of_isLower hlower
  rw [trim_append hbefore hafter (by simp) htrimmed.last, trimStart_eq_self htrimmed.head]

lemma containsText_eq_false {needle cs : List Char} {c : Char} (hneedle : c ∈ needle)
    (hcs : c ∉ cs) : containsText needle cs = false := by
  have hnone : splitAtText? needle cs = none :=
    splitAtText?_eq_none_iff.2 fun hinside => hcs (hinside.subset hneedle)
  rw [containsText, hnone]
  rfl

/-- **Which templates are taken for the word `raw` alone**: apart from blanks at their ends they are
that word between braces. -/
theorem isRawStatement_iff {template : String} :
    isRawStatement template = true ↔ IsLoneRaw (trimmed template) := by
  rw [isRawStatement, IsLoneRaw, trimmed, String.toList_ofList]
  constructor
  · intro h
    split at h
    · next inside hinside =>
      obtain ⟨rest, hrest, hend⟩ := Option.bind_eq_some_iff.1 hinside
      rw [stripStart?_eq_some_iff] at hrest
      rw [stripEnd?_eq_some_iff] at hend
      have hraw : trim inside = ['r', 'a', 'w'] := by
        simp only [Bool.and_eq_true, beq_iff_eq] at h
        exact h.2
      obtain ⟨before, after, heq, hbefore, hafter⟩ := exists_trim_append inside
      rw [hraw] at heq
      exact ⟨before, after, hbefore, hafter, by rw [hrest, hend, heq]⟩
    · simp at h
  · rintro ⟨before, after, hbefore, hafter, htext⟩
    have hbrace : '{' ∉ before ++ (['r', 'a', 'w'] ++ after) := by
      have hblank : isBlank '{' = false := by decide
      simp [not_mem_of_allBlank hblank hbefore, not_mem_of_allBlank hblank hafter]
    rw [htext, stripStart?_eq_some_iff.2 rfl, Option.bind_some, stripEnd?_eq_some_iff.2 rfl]
    simp only [containsText_eq_false (show '{' ∈ opening by decide) hbrace,
      trim_raw hbefore hafter]
    decide

end Template

end ImageTags
