import Mathlib
import ImageTags.Outputs
import ImageTags.Proofs.LineEnds

/-!
# Step outputs are read back

The steps that follow read the blocks line by line: a header gives the name of an output and the
delimiter, and the lines up to the first one that equals the delimiter are the value.  Values are
arbitrary texts, so they may look like headers or delimiters themselves.

Writer and reader do not agree on what a line is.  The delimiter is chosen by the lines of the value
that end at a line feed or at a carriage return and a line feed (`Text.lines`); the reader cuts at
line feeds only.  No harm comes of it: a piece that the reader could take for a delimiter has no
carriage return, so it is a line in the other sense, too (`Text.mem_lines_of_mem_splitEach`).

* `Search` — the search for a delimiter, one number after the other.
* `search_firstFree` — it ends at the least number that is free, and by then it has tried no more
  numbers than there are lines.
* `read?` — the reader.
* **`Outputs.read?_blocks`** — the outputs of a run are read back.
-/

namespace ImageTags

open Text

namespace StepOutput

/-! ## The search for a delimiter -/

/-- The search for a delimiter that is not among some lines: a search that stands at a number ends
there if the delimiter of that number is free, and goes on to the next number if it is not. -/
inductive Search (lines : List (List Char)) : Nat → Nat → Prop
  | found {n : Nat} (h : delimiter n ∉ lines) : Search lines n n
  | next {n m : Nat} (h : delimiter n ∈ lines) (later : Search lines (n + 1) m) : Search lines n m

/-- A search passes over the numbers that are taken. -/
lemma Search.of_forall_lt {lines : List (List Char)} {n m : Nat} (hnm : n ≤ m)
    (htaken : ∀ i, n ≤ i → i < m → delimiter i ∈ lines) (hfree : delimiter m ∉ lines) :
    Search lines n m := by
  induction hnm using Nat.decreasingInduction with
  | self => exact .found hfree
  | of_succ n hnm ih =>
    exact .next (htaken n le_rfl hnm) (ih fun i hi => htaken i (Nat.le_of_succ_le hi))

lemma delimiter_injective : Function.Injective delimiter := by
  intro n m h
  have hvalue := congrArg Numeral.value (List.append_cancel_left h)
  rwa [Numeral.value_ofNat, Numeral.value_ofNat] at hvalue

/-- One of the delimiters that are looked at is free: there is one more of them than lines. -/
lemma exists_free (lines : List (List Char)) : ∃ n ≤ lines.length, delimiter n ∉ lines := by
  by_contra hnone
  push Not at hnone
  have hsub : (List.range (lines.length + 1)).map delimiter ⊆ lines := by
    refine List.forall_mem_map.2 fun n hn => hnone n ?_
    exact Nat.lt_succ_iff.1 (List.mem_range.1 hn)
  have hnodup : ((List.range (lines.length + 1)).map delimiter).Nodup :=
    List.nodup_range.map delimiter_injective
  have hlength := (List.subperm_of_subset hnodup hsub).length_le
  simp at hlength

/-- **The search ends at the least number that is free.** -/
theorem search_firstFree (lines : List (List Char)) :
    Search lines 0 (firstFree lines) ∧ IsLeast {n | delimiter n ∉ lines} (firstFree lines) ∧
      firstFree lines ≤ lines.length := by
  obtain ⟨free, hle, hfree⟩ := exists_free lines
  obtain ⟨n, hn⟩ : ∃ n, (List.range (lines.length + 1)).find?
      (fun n => delimiter n ∉ lines) = some n := by
    refine Option.isSome_iff_exists.1 (List.find?_isSome.2 ⟨free, ?_, by simpa using hfree⟩)
    exact List.mem_range.2 (Nat.lt_succ_of_le hle)
  have hfirst : firstFree lines = n := by rw [firstFree, hn, Option.getD_some]
  obtain ⟨hn, hrange, htaken⟩ := List.find?_range_eq_some.1 hn
  have hn : delimiter n ∉ lines := by simpa using hn
  have htaken : ∀ i < n, delimiter i ∈ lines := by simpa using htaken
  rw [hfirst]
  refine ⟨.of_forall_lt n.zero_le (fun i _ => htaken i) hn, ⟨hn, fun i hi => ?_⟩, ?_⟩
  · exact Nat.le_of_not_lt fun hlt => hi (htaken i hlt)
  · exact Nat.lt_succ_iff.1 (List.mem_range.1 hrange)

lemma mem_delimiter {n : Nat} {c : Char} (h : c ∈ delimiter n) :
    c ∈ "ghadelimiter_".toList ∨ c.isDigit = true :=
  (List.mem_append.1 h).imp_right Numeral.isDigit_of_mem_ofNat

/-- A delimiter is a line for the writer and for the reader. -/
lemma delimiter_plain (n : Nat) :
    delimiter n ≠ [] ∧ '\n' ∉ delimiter n ∧ '\r' ∉ delimiter n :=
  ⟨List.append_ne_nil_of_left_ne_nil (by decide) _, fun h => absurd (mem_delimiter h) (by decide),
    fun h => absurd (mem_delimiter h) (by decide)⟩

/-- The delimiter of a value is not among the pieces that a reader cuts the value into. -/
lemma delimiterFor_not_mem (value : List Char) : delimiterFor value ∉ splitEach '\n' value := by
  obtain ⟨hne, -, hreturn⟩ := delimiter_plain (firstFree (lines value))
  obtain ⟨-, ⟨hfree, -⟩, -⟩ := search_firstFree (lines value)
  exact fun hmem => hfree (mem_lines_of_mem_splitEach hmem hne hreturn)

/-- A carriage return belongs to the end of a line in front of a line feed only, so the first
delimiter is taken and the second is free. -/
example : block "labels" "ghadelimiter_0\r\ntags<<ghadelimiter_2\n\nghadelimiter_1\r" =
    "labels<<ghadelimiter_1\nghadelimiter_0\r\ntags<<ghadelimiter_2\n\nghadelimiter_1\r\n" ++
      "ghadelimiter_1\n" := by
  decide +kernel

/-! ## The reader -/

/-- The lines before the first that equals `mark`, and those after it. -/
def cutAtLine? (mark : List Char) :
    List (List Char) → Option (List (List Char) × List (List Char))
  | [] => none
  | line :: rest =>
    if line = mark then some ([], rest)
    else (cutAtLine? mark rest).map fun (before, after) => (line :: before, after)

lemma length_of_cutAtLine? {mark : List Char} {all before after : List (List Char)}
    (h : cutAtLine? mark all = some (before, after)) : after.length < all.length := by
  induction all generalizing before with
  | nil => simp [cutAtLine?] at h
  | cons line rest ih =>
    rw [cutAtLine?] at h
    split at h
    · obtain ⟨-, rfl⟩ := by simpa using h
      simp
    · obtain ⟨⟨before', after'⟩, hcut, heq⟩ := Option.map_eq_some_iff.1 h
      obtain ⟨rfl, rfl⟩ := Prod.mk.inj heq
      exact Nat.lt_succ_of_lt (ih hcut)

lemma cutAtLine?_append {mark : List Char} {before : List (List Char)} (h : mark ∉ before)
    (after : List (List Char)) :
    cutAtLine? mark (before ++ mark :: after) = some (before, after) := by
  induction before with
  | nil => simp [cutAtLine?]
  | cons line before ih =>
    obtain ⟨hline, hbefore⟩ := not_or.1 (mt List.mem_cons.2 h)
    rw [List.cons_append, cutAtLine?, if_neg (Ne.symm hline), ih hbefore]
    rfl

/-- The outputs in some lines, with their names: a line `name<<mark`, then the lines of the value,
then a line `mark`, and so on. -/
def readLines? : List (List Char) → Option (List (String × String))
  | [] => some []
  | header :: rest =>
    match splitAtText? ['<', '<'] header with
    | none => none
    | some (name, mark) =>
      match _hcut : cutAtLine? mark rest with
      | none => none
      | some (value, others) =>
        (readLines? others).map
          ((String.ofList name, String.ofList (joinWith ['\n'] value)) :: ·)
termination_by all => all.length
decreasing_by
  have hlength := length_of_cutAtLine? _hcut
  simp only [List.length_cons]
  omega

/-- The outputs in a text whose lines are ended by line feeds. -/
def read? (text : String) : Option (List (String × String)) :=
  let pieces := splitEach '\n' text.toList
  if pieces.getLast? = some [] then readLines? pieces.dropLast else none

/-! ## Blocks -/

/-- The lines of the block for an output. -/
def blockLines (name value : String) : List (List Char) :=
  (name.toList ++ ['<', '<'] ++ delimiterFor value.toList) ::
    (splitEach '\n' value.toList ++ [delimiterFor value.toList])

lemma toList_block (name value : String) :
    (block name value).toList = (blockLines name value).flatMap (· ++ ['\n']) := by
  rw [blockLines, List.flatMap_cons, List.flatMap_append, flatMap_splitEach, block,
    String.toList_ofList]
  simp

/-- A name that can stand in a header. -/
structure IsName (name : String) : Prop where
  no_feed : '\n' ∉ name.toList
  no_mark : '<' ∉ name.toList

lemma newline_not_mem_of_mem_blockLines {name : String} (hname : IsName name) {value : String} :
    ∀ line ∈ blockLines name value, '\n' ∉ line := by
  have hmark : '\n' ∉ delimiterFor value.toList := (delimiter_plain _).2.1
  intro line hline
  rw [blockLines, List.mem_cons, List.mem_append, List.mem_singleton] at hline
  rcases hline with rfl | hline | rfl
  · simp [hname.no_feed, hmark]
  · exact not_mem_of_mem_splitEach hline
  · exact hmark

/-- **One block is read back**, whatever lines follow it. -/
theorem readLines?_blockLines {name : String} (hname : IsName name) (value : String)
    (rest : List (List Char)) :
    readLines? (blockLines name value ++ rest) = (readLines? rest).map ((name, value) :: ·) := by
  have hheader : splitAtText? ['<', '<']
      (name.toList ++ ['<', '<'] ++ delimiterFor value.toList) =
      some (name.toList, delimiterFor value.toList) := by
    rw [List.append_assoc]
    exact splitAtText?_append hname.no_mark _
  have hvalue : cutAtLine? (delimiterFor value.toList)
      (splitEach '\n' value.toList ++ [delimiterFor value.toList] ++ rest) =
      some (splitEach '\n' value.toList, rest) := by
    rw [List.append_assoc]
    exact cutAtLine?_append (delimiterFor_not_mem _) rest
  rw [blockLines, List.cons_append, readLines?]
  split
  · next hnone => exact absurd (hheader.symm.trans hnone) (by simp)
  · next name' mark' hsome =>
    obtain ⟨rfl, rfl⟩ := Prod.mk.inj (Option.some.inj (hheader.symm.trans hsome))
    split
    · next hnone => exact absurd (hvalue.symm.trans hnone) (by simp)
    · next value' rest' hsome =>
      obtain ⟨rfl, rfl⟩ := Prod.mk.inj (Option.some.inj (hvalue.symm.trans hsome))
      rw [joinWith_splitEach, String.ofList_toList, String.ofList_toList]

lemma readLines?_blocks {entries : List (String × String)} (h : ∀ e ∈ entries, IsName e.1) :
    readLines? (entries.flatMap fun e => blockLines e.1 e.2) = some entries := by
  induction entries with
  | nil => rw [List.flatMap_nil, readLines?]
  | cons e entries ih =>
    obtain ⟨he, hentries⟩ := List.forall_mem_cons.1 h
    rw [List.flatMap_cons, readLines?_blockLines he, ih hentries]
    rfl

/-- **The text of some blocks is read back.** -/
theorem read?_join {entries : List (String × String)} (h : ∀ e ∈ entries, IsName e.1) :
    read? (String.join (entries.map fun e => block e.1 e.2)) = some entries := by
  have htext : (String.join (entries.map fun e => block e.1 e.2)).toList =
      (entries.flatMap fun e => blockLines e.1 e.2).flatMap (· ++ ['\n']) := by
    rw [String.toList_join, List.flatMap_assoc, List.flatMap_map]
    exact List.flatMap_congr fun e _ => toList_block e.1 e.2
  have hfeed : ∀ line ∈ entries.flatMap (fun e => blockLines e.1 e.2), '\n' ∉ line := by
    intro line hline
    obtain ⟨e, he, hline⟩ := List.mem_flatMap.1 hline
    exact newline_not_mem_of_mem_blockLines (h e he) line hline
  rw [read?, htext, splitEach_flatMap hfeed, List.getLast?_concat, if_pos rfl,
    List.dropLast_concat, readLines?_blocks h]

end StepOutput

/-! ## The outputs of a run -/

lemma Outputs.isName_of_mem_entries (o : Outputs) : ∀ e ∈ o.entries, StepOutput.IsName e.1 := by
  have hnames : ∀ name ∈ ["version", "tags", "tag-names", "labels", "json", "bake-file"],
      '\n' ∉ name.toList ∧ '<' ∉ name.toList := by
    decide
  intro e he
  have hmem : e.1 ∈ o.entries.map Prod.fst := List.mem_map_of_mem he
  obtain ⟨hfeed, hmark⟩ := hnames e.1 hmem
  exact ⟨hfeed, hmark⟩

/-- **The outputs of a run are read back from their blocks**: six values, each with its name, in
this order.  For every value the search for its delimiter ends: at the least number whose delimiter
is no line of the value, which is at most the number of its lines. -/
theorem Outputs.read?_blocks (o : Outputs) :
    StepOutput.read? o.blocks =
        some [("version", o.version), ("tags", o.tags), ("tag-names", o.tagNames),
          ("labels", o.labels), ("json", o.json), ("bake-file", o.buildFile)] ∧
      ∀ value : List Char, ∃ n, StepOutput.delimiterFor value = StepOutput.delimiter n ∧
        StepOutput.Search (lines value) 0 n ∧
        IsLeast {n | StepOutput.delimiter n ∉ lines value} n ∧ n ≤ (lines value).length :=
  ⟨StepOutput.read?_join o.isName_of_mem_entries,
    fun value => ⟨_, rfl, StepOutput.search_firstFree (lines value)⟩⟩

end ImageTags
