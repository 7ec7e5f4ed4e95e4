import ImageTags.Proofs.LowerCase
import ImageTags.Text.Split

/-!
# Trimmed texts

A text is *trimmed* if it has no blank at either end.  Trimming gives such a text and does nothing
to one, and lower case keeps a text trimmed, so a key that was trimmed and put into lower case is
not changed when both are done again.
-/

namespace ImageTags.Text

/-- A text without blanks at its ends. -/
structure Trimmed (cs : List Char) : Prop where
  head : ∀ c ∈ cs.head?, isBlank c = false
  last : ∀ c ∈ cs.getLast?, isBlank c = false

lemma head?_dropWhile_isBlank {cs : List Char} {c : Char}
    (h : c ∈ (cs.dropWhile isBlank).head?) : isBlank c = false := by
  have hnot := List.head?_dropWhile_not isBlank cs
  rw [Option.mem_def.1 h] at hnot
  simpa using hnot

lemma trimmed_of_forall {cs : List Char} (h : ∀ c ∈ cs, isBlank c = false) : Trimmed cs where
  head c hc := h c (List.mem_of_mem_head? hc)
  last c hc := h c (List.mem_of_mem_getLast? hc)

lemma trimStart_eq_self {cs : List Char} (h : ∀ c ∈ cs.head?, isBlank c = false) :
    trimStart cs = cs := by
  cases cs with
  | nil => rfl
  | cons c cs => rw [trimStart, List.dropWhile_cons_of_neg (by simp [h c rfl])]

/-- Blanks in front of a text are trimmed with those that it starts with. -/
lemma trimStart_append {blanks : List Char} (h : allBlank blanks = true) (cs : List Char) :
    trimStart (blanks ++ cs) = trimStart cs :=
  List.dropWhile_append_of_pos (List.all_eq_true.1 h)

lemma trimStart_trimStart (cs : List Char) : trimStart (trimStart cs) = trimStart cs :=
  trimStart_eq_self fun _ hc => head?_dropWhile_isBlank hc

lemma trimEnd_eq_self {cs : List Char} (h : ∀ c ∈ cs.getLast?, isBlank c = false) :
    trimEnd cs = cs := by
  have hstart : trimStart cs.reverse = cs.reverse := trimStart_eq_self (by simpa using h)
  rw [trimEnd, ← trimStart, hstart, List.reverse_reverse]

/-- Blanks behind a text are trimmed with those that it ends with. -/
lemma trimEnd_append (cs : List Char) {blanks : List Char} (h : allBlank blanks = true) :
    trimEnd (cs ++ blanks) = trimEnd cs := by
  have hblanks : ∀ c ∈ blanks.reverse, isBlank c = true := by
    intro c hc
    exact List.all_eq_true.1 h c (List.mem_reverse.1 hc)
  rw [trimEnd, List.reverse_append, List.dropWhile_append_of_pos hblanks, trimEnd]

/-- Blanks around a text are trimmed, and so are those that it starts with. -/
lemma trim_append {before after : List Char} (hbefore : allBlank before = true)
    (hafter : allBlank after = true) {cs : List Char} (hne : cs ≠ [])
    (hcs : ∀ c ∈ cs.getLast?, isBlank c = false) :
    trim (before ++ (cs ++ after)) = trimStart cs := by
  obtain ⟨c, hc⟩ : ∃ c, cs.getLast? = some c := ⟨_, List.getLast?_eq_some_getLast hne⟩
  have hsplit : cs = cs.takeWhile isBlank ++ trimStart cs :=
    List.takeWhile_append_dropWhile.symm
  -- the last character stays, so something is left of the text and ends with it
  have hstart : trimStart cs ≠ [] := by
    intro hnil
    rw [hnil, List.append_nil] at hsplit
    have hblank := List.all_eq_true.1 List.all_takeWhile c (hsplit ▸ List.mem_of_getLast? hc)
    simp [hcs c hc] at hblank
  have hend : ∀ d ∈ (trimStart cs).getLast?, isBlank d = false := by
    intro d hd
    exact hcs d (by rw [hsplit, List.getLast?_append, Option.mem_def.1 hd]; rfl)
  have htrim : trimStart (cs ++ after) = trimStart cs ++ after := by
    rw [trimStart, List.dropWhile_append, ← trimStart, if_neg (by simpa using hstart)]
  rw [trim, trimStart_append hbefore, htrim, trimEnd_append _ hafter, trimEnd_eq_self hend]

/-- **A trimmed text is not changed by trimming.** -/
theorem trim_eq_self {cs : List Char} (h : Trimmed cs) : trim cs = cs := by
  rw [trim, trimStart_eq_self h.head, trimEnd_eq_self h.last]

lemma trimEnd_begins (cs : List Char) : trimEnd cs <+: cs := by
  have h := (List.dropWhile_suffix isBlank (l := cs.reverse)).reverse
  rwa [List.reverse_reverse] at h

/-- Trimming brings nothing into a text. -/
lemma mem_of_mem_trim {cs : List Char} {c : Char} (h : c ∈ trim cs) : c ∈ cs :=
  (List.dropWhile_suffix isBlank).subset ((trimEnd_begins _).subset h)

/-- Blanks are trimmed from an end of which the rest is known. -/
lemma trimEnd_cons {c : Char} (hc : isBlank c = false) (cs : List Char) :
    trimEnd (c :: cs) = c :: trimEnd cs := by
  rw [trimEnd, trimEnd, List.reverse_cons, List.dropWhile_append]
  split
  · next h =>
    rw [List.isEmpty_iff.1 h, List.dropWhile_cons_of_neg (by simp [hc])]
    rfl
  · rw [List.reverse_append]
    rfl

lemma exists_trimEnd_append (cs : List Char) :
    ∃ blanks, cs = trimEnd cs ++ blanks ∧ allBlank blanks = true := by
  refine ⟨(cs.reverse.takeWhile isBlank).reverse, ?_, ?_⟩
  · rw [trimEnd, ← List.reverse_append, List.takeWhile_append_dropWhile, List.reverse_reverse]
  · rw [allBlank, List.all_reverse]
    exact List.all_takeWhile

/-- Trimming takes blanks away at both ends. -/
lemma exists_trim_append (cs : List Char) : ∃ before after,
    cs = before ++ (trim cs ++ after) ∧ allBlank before = true ∧ allBlank after = true := by
  obtain ⟨after, hafter, hblank⟩ := exists_trimEnd_append (trimStart cs)
  refine ⟨cs.takeWhile isBlank, after, ?_, List.all_takeWhile, hblank⟩
  rw [trim, ← hafter, trimStart, List.takeWhile_append_dropWhile]

/-- **Trimming gives a trimmed text.** -/
theorem trimmed_trim (cs : List Char) : Trimmed (trim cs) where
  head c hc := by
    -- what is left starts as the text did before its end was trimmed
    obtain ⟨rest, hrest⟩ := trimEnd_begins (trimStart cs)
    have hhead : c ∈ (trimStart cs).head? := by
      rw [trim] at hc
      rw [← hrest, List.head?_append, Option.mem_def.1 hc]
      rfl
    exact head?_dropWhile_isBlank hhead
  last c hc := by
    rw [trim, trimEnd, List.getLast?_reverse] at hc
    exact head?_dropWhile_isBlank hc

@[simp] lemma trim_trim (cs : List Char) : trim (trim cs) = trim cs :=
  trim_eq_self (trimmed_trim cs)

/-- A text that trimming does not change is trimmed. -/
lemma trimmed_of_trim_eq {cs : List Char} (h : trim cs = cs) : Trimmed cs :=
  h ▸ trimmed_trim cs

/-! ## Trimmed texts put together -/

/-- Two trimmed texts with a character between them that is not a blank, even if they are empty. -/
lemma Trimmed.append_cons {cs ds : List Char} (hcs : Trimmed cs) (hds : Trimmed ds) {c : Char}
    (hc : isBlank c = false) : Trimmed (cs ++ c :: ds) where
  head d hd := by
    cases cs with
    | nil =>
      obtain rfl : c = d := by simpa using hd
      exact hc
    | cons e cs => exact hcs.head d (by simpa using hd)
  last d hd := by
    rw [List.getLast?_append, List.getLast?_cons] at hd
    cases hlast : ds.getLast? with
    | none =>
      obtain rfl : c = d := by simpa [hlast] using hd
      exact hc
    | some e => exact hds.last d (by simpa [hlast] using hd)

/-- Trimmed texts joined by a character that is not a blank. -/
lemma trimmed_joinWith {c : Char} (hc : isBlank c = false) {pieces : List (List Char)}
    (h : ∀ piece ∈ pieces, Trimmed piece) : Trimmed (joinWith [c] pieces) := by
  induction pieces with
  | nil => exact trimmed_of_forall (by simp [joinWith])
  | cons piece pieces ih =>
    obtain ⟨hpiece, hpieces⟩ := List.forall_mem_cons.1 h
    cases pieces with
    | nil => exact hpiece
    | cons next pieces =>
      rw [joinWith_cons [c] piece (by simp)]
      exact hpiece.append_cons (ih hpieces) hc

/-! ## Trimmed texts in lower case -/

/-- No character but a blank becomes a blank in its place in a text. -/
lemma isBlank_of_mem_lowerCaseAt {before : List Char} {c d : Char} {after : List Char}
    (hc : isBlank c = false) (h : d ∈ lowerCaseAt before c after) : isBlank d = false :=
  of_mem_lowerCaseAt (p := fun d => isBlank d = false) (by decide) (by decide)
    (Unicode.isBlank_of_mem_lowerCaseOf hc) h

lemma head?_lowerCaseAfter {before cs : List Char} (h : ∀ c ∈ cs.head?, isBlank c = false) :
    ∀ d ∈ (lowerCaseAfter before cs).head?, isBlank d = false := by
  cases cs with
  | nil => simp [lowerCaseAfter]
  | cons c cs =>
    intro d hd
    obtain ⟨e, es, hat⟩ := List.exists_cons_of_ne_nil (lowerCaseAt_ne_nil before c cs)
    rw [lowerCaseAfter_cons, hat, List.cons_append, List.head?_cons] at hd
    obtain rfl := Option.some.inj hd
    exact isBlank_of_mem_lowerCaseAt (h c rfl) (hat ▸ List.mem_cons_self)

lemma getLast?_lowerCaseAfter {before cs : List Char}
    (h : ∀ c ∈ cs.getLast?, isBlank c = false) :
    ∀ d ∈ (lowerCaseAfter before cs).getLast?, isBlank d = false := by
  induction cs generalizing before with
  | nil => simp [lowerCaseAfter]
  | cons c cs ih =>
    intro d hd
    rw [lowerCaseAfter_cons] at hd
    cases cs with
    | nil =>
      rw [lowerCaseAfter, List.append_nil] at hd
      exact isBlank_of_mem_lowerCaseAt (h c rfl) (List.mem_of_mem_getLast? hd)
    | cons c' cs =>
      have hne : lowerCaseAfter (c :: before) (c' :: cs) ≠ [] := by
        simp [lowerCaseAfter_cons, lowerCaseAt_ne_nil]
      rw [List.getLast?_append, List.getLast?_eq_some_getLast hne, Option.some_or] at hd
      rw [← List.getLast?_eq_some_getLast hne] at hd
      exact ih (by simpa using h) d hd

/-- Lower case keeps a text trimmed. -/
lemma trimmed_lowerCase {cs : List Char} (h : Trimmed cs) : Trimmed (lowerCase cs) :=
  ⟨head?_lowerCaseAfter h.head, getLast?_lowerCaseAfter h.last⟩

/-- **Trimming and lower case done again change nothing.** -/
theorem lowerCase_trim_again (cs : List Char) :
    lowerCase (trim (lowerCase (trim cs))) = lowerCase (trim cs) := by
  rw [trim_eq_self (trimmed_lowerCase (trimmed_trim cs)), lowerCase_lowerCase]

/-- A word of letters from `a` to `z` is trimmed. -/
lemma trimmed_of_isLower {cs : List Char} (h : cs.all Char.isLower = true) : Trimmed cs := by
  refine trimmed_of_forall fun c hc => ?_
  have hrange := isLower_iff.1 (List.all_eq_true.1 h c hc)
  rw [← Bool.not_eq_true, isBlank_iff]
  omega

end ImageTags.Text
