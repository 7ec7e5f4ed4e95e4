import Mathlib
import ImageTags.Metadata

/-!
# The tags of a run in full

The tags of a run in full form a table with a row for each enabled image and a column for each
name, written row by row.  An image that is disabled has no row, so it can be put in or taken out
without a change to the tags; if no image is enabled there is no table, and the names stand alone.

* `getElem?_flatMap_of_length` — a table written row by row.
* `Image.PutsIn` — a disabled image is put in.
* **`Image.qualify_by_place`** — the tags, place by place.
-/

namespace ImageTags

open Text

/-- The entry in row `i` and column `j` of a table that is written row by row. -/
lemma getElem?_flatMap_of_length {α β : Type} {row : α → List β} {width : Nat} {as : List α}
    (hrow : ∀ a ∈ as, (row a).length = width) {i j : Nat} (hi : i < as.length) (hj : j < width) :
    (as.flatMap row)[i * width + j]? = (row as[i])[j]? := by
  induction as generalizing i with
  | nil => simp at hi
  | cons a as ih =>
    obtain ⟨ha, has⟩ := List.forall_mem_cons.1 hrow
    rw [List.flatMap_cons]
    cases i with
    | zero =>
      rw [zero_mul, zero_add, List.getElem?_append_left (by omega), List.getElem_cons_zero]
    | succ i =>
      have hplace : (i + 1) * width + j = (row a).length + (i * width + j) := by
        rw [ha, add_one_mul]
        omega
      rw [hplace, List.getElem?_append_right (by omega), Nat.add_sub_cancel_left,
        ih has (by simpa using hi), List.getElem_cons_succ]

namespace Image

variable {images images' : List Image}

/-! ## The table -/

/-- The tags of one image. -/
def row (names : List String) (image : String) : List String :=
  names.map fun name => lowerCased image ++ ":" ++ name

lemma length_row (names : List String) (image : String) :
    (row names image).length = names.length :=
  List.length_map _

/-- The number of tags in the table. -/
lemma length_rows (names enabled : List String) :
    (enabled.flatMap (row names)).length = enabled.length * names.length := by
  simp [List.length_flatMap, length_row]

/-- With an enabled image the tags are the rows of the table. -/
lemma qualify_of_ne_nil (h : enabledNames images ≠ []) (names : List String) :
    qualify images names = (enabledNames images).flatMap (row names) := by
  rw [qualify]
  split
  · next hnil => exact absurd hnil h
  · rfl

/-- Without an enabled image the tags are the names. -/
lemma qualify_of_eq_nil (h : enabledNames images = []) (names : List String) :
    qualify images names = names := by
  rw [qualify, h]

/-! ## Disabled images -/

/-- A disabled image is put in somewhere. -/
def PutsIn (images images' : List Image) : Prop :=
  ∃ before image after, image.enabled = false ∧ images = before ++ after ∧
    images' = before ++ image :: after

lemma PutsIn.filter_enabled (h : PutsIn images images') :
    images.filter (·.enabled) = images'.filter (·.enabled) := by
  obtain ⟨before, image, after, hdisabled, rfl, rfl⟩ := h
  simp [hdisabled]

/-- Disabled images that are put in or taken out one after the other leave the enabled ones as they
are. -/
lemma filter_enabled_of_eqvGen (h : Relation.EqvGen PutsIn images images') :
    images.filter (·.enabled) = images'.filter (·.enabled) := by
  induction h with
  | rel _ _ hputs => exact hputs.filter_enabled
  | refl _ => rfl
  | symm _ _ _ ih => exact ih.symm
  | trans _ _ _ _ _ ih ih' => exact ih.trans ih'

/-- The tags depend on the enabled images only. -/
lemma qualify_congr (h : images.filter (·.enabled) = images'.filter (·.enabled))
    (names : List String) : qualify images names = qualify images' names := by
  rw [qualify, qualify, enabledNames, enabledNames, h]

/-- **The tags of a run in full, place by place.**  If `n` images are enabled and there are `m`
names there are `n * m` tags, and the one in place `i * m + j` is that of the `i`-th enabled image
with the `j`-th name.  If no image is enabled the tags are the names.  Disabled images can be put in
and taken out anywhere without a change to the tags. -/
theorem qualify_by_place (version : ImageVersion) (images : List Image) :
    (0 < (images.filter (·.enabled)).length →
      (qualify images version.names).length =
        (images.filter (·.enabled)).length * version.names.length ∧
      ∀ (i j : Nat) (hi : i < (images.filter (·.enabled)).length) (hj : j < version.names.length),
        (qualify images version.names)[i * version.names.length + j]? =
          some (lowerCased (images.filter (·.enabled))[i].name ++ ":" ++ version.names[j])) ∧
    (images.filter (·.enabled) = [] → qualify images version.names = version.names) ∧
    (∀ images', Relation.EqvGen PutsIn images images' →
      qualify images' version.names = qualify images version.names) := by
  refine ⟨fun hpos => ?_, fun hnil => ?_, fun images' h => ?_⟩
  · have hne : enabledNames images ≠ [] :=
      mt List.map_eq_nil_iff.1 (List.ne_nil_of_length_pos hpos)
    rw [qualify_of_ne_nil hne]
    refine ⟨by rw [length_rows, enabledNames, List.length_map], fun i j hi hj => ?_⟩
    have hi' : i < (enabledNames images).length := by simpa [enabledNames] using hi
    rw [getElem?_flatMap_of_length (fun image _ => length_row version.names image) hi' hj, row,
      List.getElem?_map, List.getElem?_eq_getElem hj]
    simp [enabledNames]
  · exact qualify_of_eq_nil (by rw [enabledNames, hnil]; rfl) version.names
  · exact (qualify_congr (filter_enabled_of_eqvGen h) version.names).symm

/-- A disabled image between two that are not, one of them with capital letters. -/
example : qualify [⟨"User/App", true⟩, ⟨"user/base", false⟩, ⟨"ghcr.io/user/app", true⟩]
    ["1.2", "RC"] =
      ["user/app:1.2", "user/app:RC", "ghcr.io/user/app:1.2", "ghcr.io/user/app:RC"] := by
  decide +kernel

end Image

end ImageTags
