import Mathlib.Data.List.Basic
import ImageTags.Text.Lines

/-!
# The ends of lines

The lines of a text are its pieces between line feeds, each without a carriage return in front of
its line feed.  The last piece has no line feed: it keeps a carriage return, and is no line if it is
empty.  So a line feed that is put behind a text can change the text's last line.

* `lines_of_splitEach` — the lines by the pieces.
* `lines_flatMap` — lines that are each ended by a line feed are found again.
* `lines_append_feed` — what stands behind a line feed has its lines for itself.
* `EndsInReturn` — the texts whose last line a line feed changes.
* **`mem_lines_of_mem_lines_concat`** — which lines a line feed behind a text brings about.
-/

namespace ImageTags.Text

/-! ## Carriage returns -/

lemma dropReturn_eq_self {line : List Char} (h : line.getLast? ≠ some '\r') :
    dropReturn line = line := by
  rw [dropReturn]
  cases hstrip : stripEnd? ['\r'] line with
  | none => rfl
  | some before =>
    rw [stripEnd?_eq_some_iff] at hstrip
    simp [hstrip] at h

lemma dropReturn_concat (line : List Char) : dropReturn (line ++ ['\r']) = line := by
  rw [dropReturn, stripEnd?_eq_some_iff.2 rfl, Option.getD_some]

lemma dropReturn_cases (line : List Char) :
    dropReturn line = line ∨ line = dropReturn line ++ ['\r'] := by
  rw [dropReturn]
  cases hstrip : stripEnd? ['\r'] line with
  | none => exact Or.inl rfl
  | some before => exact Or.inr (stripEnd?_eq_some_iff.1 hstrip)

lemma mem_of_mem_dropReturn {line : List Char} {c : Char} (h : c ∈ dropReturn line) :
    c ∈ line := by
  rcases dropReturn_cases line with hsame | hreturn
  · rwa [hsame] at h
  · rw [hreturn]
    exact List.mem_append_left _ h

/-! ## Pieces and lines -/

/-- The last of the pieces of a text. -/
lemma exists_splitEach_eq_concat (sep : Char) (cs : List Char) :
    ∃ ended last, splitEach sep cs = ended ++ [last] := by
  obtain ⟨ended, last, h⟩ :=
    (splitEach sep cs).eq_nil_or_concat.resolve_left (splitEach_ne_nil sep cs)
  exact ⟨ended, last, by rw [h, List.concat_eq_append]⟩

/-- The lines of a text by its pieces. -/
lemma lines_of_splitEach {cs last : List Char} {ended : List (List Char)}
    (h : splitEach '\n' cs = ended ++ [last]) :
    lines cs = ended.map dropReturn ++ if last = [] then [] else [last] := by
  rw [lines, h, List.dropLast_concat, List.getLast?_concat]
  cases last <;> simp

/-- Behind the last line feed there is an empty piece. -/
lemma splitEach_flatMap {all : List (List Char)} (h : ∀ line ∈ all, '\n' ∉ line) :
    splitEach '\n' (all.flatMap (· ++ ['\n'])) = all ++ [[]] := by
  induction all with
  | nil => rfl
  | cons line all ih =>
    obtain ⟨hline, hall⟩ := List.forall_mem_cons.1 h
    rw [List.flatMap_cons, List.append_assoc, List.singleton_append, splitEach_append hline,
      ih hall]
    rfl

/-- **Lines that are each ended by a line feed are found again**, but for a carriage return that
would be taken for a part of the end. -/
theorem lines_flatMap {all : List (List Char)} (h : ∀ line ∈ all, '\n' ∉ line) :
    lines (all.flatMap (· ++ ['\n'])) = all.map dropReturn := by
  rw [lines_of_splitEach (splitEach_flatMap h), if_pos rfl, List.append_nil]

/-- Each piece of a text gets its line feed back. -/
lemma flatMap_splitEach (cs : List Char) :
    (splitEach '\n' cs).flatMap (· ++ ['\n']) = cs ++ ['\n'] := by
  have hjoin : ∀ {pieces : List (List Char)}, pieces ≠ [] →
      pieces.flatMap (· ++ ['\n']) = joinWith ['\n'] pieces ++ ['\n'] := by
    intro pieces hne
    induction pieces with
    | nil => exact absurd rfl hne
    | cons piece pieces ih =>
      cases pieces with
      | nil => simp [joinWith]
      | cons next pieces => simp [List.flatMap_cons, joinWith, ← ih]
  rw [hjoin (splitEach_ne_nil '\n' cs), joinWith_splitEach]

/-- No line holds a line feed. -/
lemma newline_not_mem_of_mem_lines {cs line : List Char} (h : line ∈ lines cs) :
    '\n' ∉ line := by
  obtain ⟨ended, last, hpieces⟩ := exists_splitEach_eq_concat '\n' cs
  have hfeed : ∀ piece ∈ ended ++ [last], '\n' ∉ piece := fun piece hpiece =>
    not_mem_of_mem_splitEach (hpieces ▸ hpiece)
  rw [lines_of_splitEach hpieces, List.mem_append] at h
  rcases h with h | h
  · obtain ⟨piece, hpiece, rfl⟩ := List.mem_map.1 h
    exact mt mem_of_mem_dropReturn (hfeed piece (List.mem_append_left _ hpiece))
  · split at h
    · simp at h
    · obtain rfl := List.mem_singleton.1 h
      exact hfeed line (by simp)

/-- A piece between line feeds is a line, unless it is empty or ends with a carriage return. -/
lemma mem_lines_of_mem_splitEach {cs piece : List Char} (h : piece ∈ splitEach '\n' cs)
    (hne : piece ≠ []) (hreturn : '\r' ∉ piece) : piece ∈ lines cs := by
  obtain ⟨ended, last, hpieces⟩ := exists_splitEach_eq_concat '\n' cs
  rw [hpieces, List.mem_append, List.mem_singleton] at h
  rw [lines_of_splitEach hpieces, List.mem_append]
  rcases h with h | rfl
  · refine Or.inl (List.mem_map.2 ⟨piece, h, dropReturn_eq_self fun hlast => ?_⟩)
    exact hreturn (List.mem_of_getLast? hlast)
  · exact Or.inr (by simp [hne])

/-! ## A line feed behind a text -/

lemma lines_of_not_mem {cs : List Char} (h : '\n' ∉ cs) (hne : cs ≠ []) : lines cs = [cs] := by
  have hpieces : splitEach '\n' cs = [] ++ [cs] := splitEach_of_not_mem h
  rw [lines_of_splitEach hpieces, if_neg hne, List.map_nil, List.nil_append]

/-- All pieces are lines in front of a line feed. -/
lemma lines_concat (cs : List Char) :
    lines (cs ++ ['\n']) = (splitEach '\n' cs).map dropReturn := by
  rw [← flatMap_splitEach, lines_flatMap fun piece => not_mem_of_mem_splitEach]

lemma lines_concat_of_not_mem {cs : List Char} (h : '\n' ∉ cs) :
    lines (cs ++ ['\n']) = [dropReturn cs] := by
  rw [lines_concat, splitEach_of_not_mem h, List.map_singleton]

/-- What stands behind a line feed has its lines for itself. -/
lemma lines_append_feed (before after : List Char) :
    lines (before ++ '\n' :: after) = lines (before ++ ['\n']) ++ lines after := by
  obtain ⟨ended, last, hafter⟩ := exists_splitEach_eq_concat '\n' after
  have hall : splitEach '\n' (before ++ '\n' :: after) =
      (splitEach '\n' before ++ ended) ++ [last] := by
    rw [splitEach_append_sep, hafter, List.append_assoc]
  rw [lines_of_splitEach hall, lines_of_splitEach hafter, lines_concat, List.map_append,
    List.append_assoc]

/-- A text whose last line is some line and a carriage return.  The carriage return belongs to the
line because there is no line feed behind it. -/
inductive EndsInReturn (line : List Char) : List Char → Prop
  | whole : EndsInReturn line (line ++ ['\r'])
  | behind (before : List Char) : EndsInReturn line (before ++ '\n' :: (line ++ ['\r']))

namespace EndsInReturn

variable {line cs : List Char}

lemma iff_suffix :
    EndsInReturn line cs ↔ cs = line ++ ['\r'] ∨ '\n' :: (line ++ ['\r']) <:+ cs := by
  constructor
  · rintro (_ | before)
    · exact Or.inl rfl
    · exact Or.inr (List.suffix_append before _)
  · rintro (rfl | ⟨before, rfl⟩)
    · exact .whole
    · exact .behind before

instance : Decidable (EndsInReturn line cs) :=
  decidable_of_iff _ iff_suffix.symm

lemma append_feed (h : EndsInReturn line cs) (before : List Char) :
    EndsInReturn line (before ++ '\n' :: cs) := by
  cases h with
  | whole => exact .behind before
  | behind middle =>
    have hcs : before ++ '\n' :: (middle ++ '\n' :: (line ++ ['\r'])) =
        (before ++ '\n' :: middle) ++ '\n' :: (line ++ ['\r']) := by simp
    rw [hcs]
    exact .behind _

/-- A line feed behind such a text takes the carriage return from its last line. -/
lemma exists_lines (h : EndsInReturn line cs) (hfeed : '\n' ∉ line) :
    ∃ before, lines cs = before ++ [line ++ ['\r']] ∧ lines (cs ++ ['\n']) = before ++ [line] := by
  have hreturn : '\n' ∉ line ++ ['\r'] := by simpa using hfeed
  have hopen : lines (line ++ ['\r']) = [line ++ ['\r']] := lines_of_not_mem hreturn (by simp)
  have hended : lines (line ++ ['\r'] ++ ['\n']) = [line] := by
    rw [lines_concat_of_not_mem hreturn, dropReturn_concat]
  cases h with
  | whole => exact ⟨[], hopen, hended⟩
  | behind before =>
    refine ⟨lines (before ++ ['\n']), ?_, ?_⟩
    · rw [lines_append_feed, hopen]
    · rw [List.append_assoc, List.cons_append, lines_append_feed, hended]

end EndsInReturn

/-- **Which lines a line feed behind a text brings about**: the empty one, and the last line of the
text without its carriage return. -/
theorem mem_lines_of_mem_lines_concat {line cs : List Char} (h : line ∈ lines (cs ++ ['\n']))
    (hne : line ≠ []) : line ∈ lines cs ∨ EndsInReturn line cs := by
  -- only what stands behind the last line feed of the text can change
  have hlast : ∀ {last : List Char}, '\n' ∉ last → line ∈ lines (last ++ ['\n']) →
      line ∈ lines last ∨ EndsInReturn line last := by
    intro last hfeed hmem
    rw [lines_concat_of_not_mem hfeed, List.mem_singleton] at hmem
    subst hmem
    rcases dropReturn_cases last with hsame | hreturn
    · rw [hsame] at hne ⊢
      exact Or.inl (by simp [lines_of_not_mem hfeed hne])
    · exact Or.inr (by rw [hreturn, dropReturn_concat]; exact .whole)
  cases hsplit : splitLast? '\n' cs with
  | none => exact hlast (splitLast?_eq_none_iff.1 hsplit) h
  | some pieces =>
    obtain ⟨before, last⟩ := pieces
    obtain ⟨rfl, hfeed⟩ := splitLast?_eq_some_iff.1 hsplit
    rw [List.append_assoc, List.cons_append, lines_append_feed, List.mem_append] at h
    rw [lines_append_feed, List.mem_append]
    rcases h with h | h
    · exact Or.inl (Or.inl h)
    · exact (hlast hfeed h).imp Or.inr (EndsInReturn.append_feed · before)

end ImageTags.Text
