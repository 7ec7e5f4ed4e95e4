import Mathlib.Data.List.Basic
import ImageTags.Directive
import ImageTags.Proofs.LineEnds
import ImageTags.Proofs.Trim

/-!
# Directives, one on each line

A text of directives is cut into lines; the lines are trimmed, and those that are empty or start
with `#` are left out.  A directive that was found in a text has nothing left of that to be done to
it (`Directive.IsLine`).  So directives of that sort that are written again, one on each line, are
found again as they are.

* `Directive.isLine_of_mem_list` — what is found in a text.
* **`Directive.list_join`** — it is found again.
-/

namespace ImageTags

namespace Directive

open Text

/-! ## Directives -/

/-- A directive that is found as it is where it stands on a line of its own. -/
structure IsLine (directive : String) : Prop where
  no_feed : '\n' ∉ directive.toList
  trimmed : Trimmed directive.toList
  head : ∃ c ∈ directive.toList.head?, c ≠ '#'

/-- **What is found in a text** stands on a line of its own. -/
theorem isLine_of_mem_list {text directive : String} (h : directive ∈ list text) :
    IsLine directive := by
  obtain ⟨line, hline, hfound⟩ := List.mem_filterMap.1 h
  obtain ⟨written, hwritten, rfl⟩ := List.mem_map.1 hline
  have hfeed : '\n' ∉ trim written := fun hmem =>
    newline_not_mem_of_mem_lines hwritten (mem_of_mem_trim hmem)
  split at hfound
  · simp at hfound
  · simp at hfound
  · next c cs hcomment heq =>
    obtain rfl := Option.some.inj hfound
    rw [heq] at hfeed
    refine ⟨by simpa using hfeed, ?_, c, by simp, hcomment⟩
    rw [String.toList_ofList, ← heq]
    exact trimmed_trim written

/-- A line that is a directive is one. -/
lemma IsLine.found {directive : String} (h : IsLine directive) :
    (match trim directive.toList with
      | [] => none
      | '#' :: _ => none
      | c :: cs => some (String.ofList (c :: cs))) = some directive := by
  obtain ⟨c, hc, hcomment⟩ := h.head
  obtain ⟨cs, hcs⟩ := List.head?_eq_some_iff.1 hc
  rw [trim_eq_self h.trimmed, hcs]
  split
  · next heq => simp at heq
  · next heq => exact absurd (List.cons.inj heq).1 hcomment
  · next heq => rw [← heq, ← hcs, String.ofList_toList]

lemma IsLine.dropReturn_eq {directive : String} (h : IsLine directive) :
    dropReturn directive.toList = directive.toList := by
  refine dropReturn_eq_self fun hlast => ?_
  have hblank := h.trimmed.last '\r' hlast
  simp [show isBlank '\r' = true from by decide] at hblank

/-- **Directives that are written one on each line are found again.** -/
theorem list_join {directives : List String} (h : ∀ directive ∈ directives, IsLine directive) :
    list (String.join (directives.map (· ++ "\n"))) = directives := by
  have htext : (String.join (directives.map (· ++ "\n"))).toList =
      (directives.map String.toList).flatMap (· ++ ['\n']) := by
    simp [String.toList_join, List.flatMap_map]
  have hlines : lines ((directives.map String.toList).flatMap (· ++ ['\n'])) =
      directives.map String.toList := by
    rw [lines_flatMap (List.forall_mem_map.2 fun directive hd => (h directive hd).no_feed),
      List.map_map]
    exact List.map_congr_left fun directive hd => (h directive hd).dropReturn_eq
  rw [list, htext, hlines, List.map_map, List.filterMap_map]
  exact (List.filterMap_congr fun directive hd => (h directive hd).found).trans List.filterMap_some

end Directive

end ImageTags
