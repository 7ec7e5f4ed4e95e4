import ImageTags.Proofs.StepOutputReading

/-!
# The lines of a block

A step that takes a carriage return and a line feed for one end of a line finds other lines in a
block than one that cuts at line feeds only.  Its lines are those by which the delimiter was chosen
(`Text.lines`), but they are the lines of the block and not of the value alone: behind the value the
block has a line feed, and a carriage return at the end of the value belongs to it.  So the
delimiter is found too early if the last line of the value is the delimiter and a carriage return,
for by that carriage return it was no line of the value.

* `ClosedBy` — some lines that end with a line which is nowhere else among them.
* `lines_block` — the lines of a block.
* **`closedBy_delimiterFor_iff`** — when the delimiter ends them.
* `cutAtLine?_lines_block` — what a step takes for the value.
-/

namespace ImageTags.StepOutput

open Text

/-! ## Closed lines -/

/-- Lines the last of which is `mark`, and no other is. -/
structure ClosedBy (mark : List Char) (all : List (List Char)) : Prop where
  last : all.getLast? = some mark
  once : mark ∉ all.dropLast

lemma closedBy_concat {mark : List Char} {before : List (List Char)} :
    ClosedBy mark (before ++ [mark]) ↔ mark ∉ before := by
  constructor
  · intro h
    simpa using h.once
  · intro h
    exact ⟨List.getLast?_concat, by rwa [List.dropLast_concat]⟩

/-! ## The lines of a block -/

/-- A delimiter at the end of a line has no carriage return behind it. -/
lemma lines_delimiter_concat {start : List Char} (h : '\n' ∉ start) (n : Nat) :
    lines (start ++ delimiter n ++ ['\n']) = [start ++ delimiter n] := by
  obtain ⟨hne, hfeed, hreturn⟩ := delimiter_plain n
  have hlast : (start ++ delimiter n).getLast? ≠ some '\r' := by
    rw [List.getLast?_append_of_ne_nil _ hne]
    exact fun hlast => hreturn (List.mem_of_getLast? hlast)
  rw [lines_concat_of_not_mem (by simp [h, hfeed]), dropReturn_eq_self hlast]

/-- The lines of a block: the header, those of the value with a line feed behind it, and the
delimiter. -/
theorem lines_block {name : String} (hname : '\n' ∉ name.toList) (value : String) :
    lines (block name value).toList =
      (name.toList ++ ['<', '<'] ++ delimiterFor value.toList) ::
        (lines (value.toList ++ ['\n']) ++ [delimiterFor value.toList]) := by
  obtain ⟨n, hmark⟩ : ∃ n, delimiterFor value.toList = delimiter n := ⟨_, rfl⟩
  have hblock : (block name value).toList =
      (name.toList ++ ['<', '<'] ++ delimiter n) ++ '\n' ::
        (value.toList ++ '\n' :: ([] ++ delimiter n ++ ['\n'])) := by
    simp [block, hmark]
  have hheader : '\n' ∉ name.toList ++ ['<', '<'] := by simp [hname]
  rw [hblock, hmark, lines_append_feed, lines_delimiter_concat hheader, lines_append_feed,
    lines_delimiter_concat List.not_mem_nil]
  rfl

lemma header_ne_delimiterFor (name value : List Char) :
    name ++ ['<', '<'] ++ delimiterFor value ≠ delimiterFor value := by
  intro h
  have hmark : '<' ∈ delimiterFor value := h ▸ by simp
  exact absurd (mem_delimiter hmark) (by decide)

/-! ## The delimiter among the lines of the value -/

lemma delimiterFor_not_mem_lines (value : List Char) : delimiterFor value ∉ lines value := by
  obtain ⟨-, ⟨hfree, -⟩, -⟩ := search_firstFree (lines value)
  exact hfree

/-- In the block the last line of the value is the delimiter, and was not when that was chosen. -/
lemma exists_lines_of_endsInReturn {value : List Char}
    (h : EndsInReturn (delimiterFor value) value) :
    ∃ before, delimiterFor value ∉ before ∧
      lines value = before ++ [delimiterFor value ++ ['\r']] ∧
      lines (value ++ ['\n']) = before ++ [delimiterFor value] := by
  obtain ⟨-, hfeed, -⟩ := delimiter_plain (firstFree (lines value))
  obtain ⟨before, hvalue, hblock⟩ := h.exists_lines hfeed
  refine ⟨before, fun hbefore => ?_, hvalue, hblock⟩
  -- the lines before the last one are lines of the value as it stands
  refine delimiterFor_not_mem_lines value ?_
  rw [hvalue]
  exact List.mem_append_left _ hbefore

/-- That is the only way for the delimiter to be a line of the value. -/
lemma delimiterFor_mem_lines_concat_iff {value : List Char} :
    delimiterFor value ∈ lines (value ++ ['\n']) ↔ EndsInReturn (delimiterFor value) value := by
  constructor
  · intro hmem
    obtain ⟨hne, -, -⟩ := delimiter_plain (firstFree (lines value))
    exact (mem_lines_of_mem_lines_concat hmem hne).resolve_left (delimiterFor_not_mem_lines value)
  · intro hreturn
    obtain ⟨before, -, -, hblock⟩ := exists_lines_of_endsInReturn hreturn
    rw [hblock]
    exact List.mem_append_right _ List.mem_cons_self

/-- **The delimiter that the header names is the last line of a block and no other**, unless the
value ends in it and a carriage return.  Then it is the last line and the one before, and no
other. -/
theorem closedBy_delimiterFor_iff {name : String} (hname : '\n' ∉ name.toList) (value : String) :
    (lines (block name value).toList).head? =
      some (name.toList ++ ['<', '<'] ++ delimiterFor value.toList) ∧
    (ClosedBy (delimiterFor value.toList) (lines (block name value).toList) ↔
      ¬ EndsInReturn (delimiterFor value.toList) value.toList) ∧
    (EndsInReturn (delimiterFor value.toList) value.toList →
      ∃ before, lines (block name value).toList = before ++ [delimiterFor value.toList] ∧
        ClosedBy (delimiterFor value.toList) before) := by
  have hheader := (header_ne_delimiterFor name.toList value.toList).symm
  rw [lines_block hname, ← List.cons_append]
  refine ⟨rfl, ?_, fun hreturn => ?_⟩
  · rw [closedBy_concat, List.mem_cons, delimiterFor_mem_lines_concat_iff, not_or]
    exact and_iff_right hheader
  · obtain ⟨before, hbefore, -, hblock⟩ := exists_lines_of_endsInReturn hreturn
    refine ⟨_, rfl, ?_⟩
    rw [hblock, ← List.cons_append, closedBy_concat, List.mem_cons, not_or]
    exact ⟨hheader, hbefore⟩

/-- A value that ends in a delimiter and a carriage return, but in another than its own. -/
theorem closedBy_delimiterFor_of_other_return :
    '\n' ∉ "labels".toList ∧
      ¬ EndsInReturn (delimiterFor "ghadelimiter_0\r\nghadelimiter_2\r".toList)
        "ghadelimiter_0\r\nghadelimiter_2\r".toList ∧
      ClosedBy (delimiterFor "ghadelimiter_0\r\nghadelimiter_2\r".toList)
        (lines (block "labels" "ghadelimiter_0\r\nghadelimiter_2\r").toList) := by
  have hname : '\n' ∉ "labels".toList := by decide
  have hother : ¬ EndsInReturn (delimiterFor "ghadelimiter_0\r\nghadelimiter_2\r".toList)
      "ghadelimiter_0\r\nghadelimiter_2\r".toList := by
    decide +kernel
  exact ⟨hname, hother, (closedBy_delimiterFor_iff hname _).2.1.2 hother⟩

/-- A value that is a delimiter and a carriage return: the delimiter is twice a line of the block. -/
theorem not_closedBy_delimiterFor_of_return :
    '\n' ∉ "tags".toList ∧ '\r' ∉ "tags".toList ∧
      lines (block "tags" "ghadelimiter_0\r").toList =
        ["tags<<ghadelimiter_0".toList, delimiterFor "ghadelimiter_0\r".toList,
          delimiterFor "ghadelimiter_0\r".toList] ∧
      ¬ ClosedBy (delimiterFor "ghadelimiter_0\r".toList)
        (lines (block "tags" "ghadelimiter_0\r").toList) := by
  have hlines : lines (block "tags" "ghadelimiter_0\r").toList =
      ["tags<<ghadelimiter_0".toList, delimiterFor "ghadelimiter_0\r".toList,
        delimiterFor "ghadelimiter_0\r".toList] := by
    decide +kernel
  refine ⟨by decide, by decide, hlines, fun h => ?_⟩
  rw [hlines] at h
  exact h.once (by simp)

/-- **What a step takes for the value** that reads the lines of a block up to the delimiter: the
lines of the value, but for the last one if the value ends in the delimiter and a carriage return.
Then the delimiter is left behind the block. -/
theorem cutAtLine?_lines_block {name : String} (hname : '\n' ∉ name.toList) (value : String) :
    ∃ behind,
      lines (block name value).toList =
        (name.toList ++ ['<', '<'] ++ delimiterFor value.toList) :: behind ∧
      (¬ EndsInReturn (delimiterFor value.toList) value.toList →
        cutAtLine? (delimiterFor value.toList) behind =
          some (lines (value.toList ++ ['\n']), [])) ∧
      (EndsInReturn (delimiterFor value.toList) value.toList →
        ∃ before, lines value.toList = before ++ [delimiterFor value.toList ++ ['\r']] ∧
          cutAtLine? (delimiterFor value.toList) behind =
            some (before, [delimiterFor value.toList])) := by
  refine ⟨_, lines_block hname value, fun hopen => ?_, fun hreturn => ?_⟩
  · exact cutAtLine?_append (mt delimiterFor_mem_lines_concat_iff.1 hopen) []
  · obtain ⟨before, hbefore, hvalue, hblock⟩ := exists_lines_of_endsInReturn hreturn
    refine ⟨before, hvalue, ?_⟩
    rw [hblock, List.append_assoc]
    exact cutAtLine?_append hbefore _

end ImageTags.StepOutput
