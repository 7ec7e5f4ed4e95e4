import Mathlib
import ImageTags.Builtin
import ImageTags.Proofs.Dictionaries
import ImageTags.Proofs.Steps

/-!
# What operations do to files

An operation changes the file that its path leads to and no other.  Writing a file may make
directories as well, and if it fails it may have made some of them.  What else it may have done then
depends on how far it got: as long as the file is not open every file is as it was, and once it is
open a write may stop in it, so that it holds a beginning of what was to be written.

The files are seen here by their names: `FileTree.file?` gives what the file with a name holds, and
an operation updates it at one name.

* `file?_ensureDirectories` — making directories.
* `Sets`, `Sets.extendAll` — a file that is written to piece by piece.
* `Effect` — what an operation may have done; **`effect_write`**, **`effect_append`** — that the two
  operations of a run have no other effect.
* `read_write` — what was written is read.
-/

namespace ImageTags

/-- A disk on which a write that was begun is never stopped. -/
def Disk.Roomy [Disk] : Prop :=
  ∀ t place bytes, Disk.stop? t place bytes = none

open Builtin in
/-- The disk that the program brings along is one. -/
example : Disk.Roomy := fun _ _ _ => rfl

/-- Some bytes are the first of others, or all of them. -/
def IsBeginning (written whole : ByteArray) : Prop :=
  ∃ rest, whole = written ++ rest

lemma IsBeginning.append {written whole : ByteArray} (h : IsBeginning written whole)
    (before : ByteArray) : IsBeginning (before ++ written) (before ++ whole) := by
  obtain ⟨rest, rfl⟩ := h
  exact ⟨rest, ByteArray.append_assoc.symm⟩

lemma IsBeginning.append_right {written whole : ByteArray} (h : IsBeginning written whole)
    (after : ByteArray) : IsBeginning written (whole ++ after) := by
  obtain ⟨rest, rfl⟩ := h
  exact ⟨rest ++ after, ByteArray.append_assoc⟩

lemma isBeginning_extract (bytes : ByteArray) (count : Nat) :
    IsBeginning (bytes.extract 0 count) bytes := by
  refine ⟨bytes.extract count (max count bytes.size), ?_⟩
  rw [ByteArray.extract_append_extract]
  simp

namespace FileTree

variable {t t' : FileTree} {path : Path} {place : List String} {bytes : ByteArray}

/-! ## Files by their names -/

/-- A file that is put at a place is the only one that changes. -/
lemma file?_put (t : FileTree) (place : List String) (bytes : ByteArray) :
    (t.put place (.file bytes)).file? =
      Function.update t.file? (placeName place) (some bytes) := by
  funext name
  by_cases h : name = placeName place
  · rw [h, Function.update_self, file?, put, Dictionary.get?_insert, if_pos rfl]
  · rw [Function.update_of_ne h, file?, file?, put, Dictionary.get?_insert, if_neg h]

/-- Only the root is a directory without an entry. -/
lemma get?_of_node? (h : t.node? place ≠ some .directory) :
    t.nodes.get? (placeName place) = t.node? place := by
  by_cases hroot : place = []
  · exact absurd (by rw [node?, if_pos hroot]) h
  · rw [node?, if_neg hroot]

/-- A directory that is new changes no file. -/
lemma file?_put_directory (h : t.node? place = none) :
    (t.put place .directory).file? = t.file? := by
  funext name
  by_cases hname : name = placeName place
  · have hnone : t.nodes.get? (placeName place) = none := by
      rw [get?_of_node? (by simp [h]), h]
    rw [hname, file?, file?, put, Dictionary.get?_insert, if_pos rfl, hnone]
  · rw [file?, file?, put, Dictionary.get?_insert, if_neg hname]

/-! ## Paths -/

/-- A directory is still there after a file was put at a place that is none. -/
lemma node?_put_of_directory {other : List String} (hother : t.node? other = some .directory)
    (hplace : t.node? place ≠ some .directory) :
    (t.put place (.file bytes)).node? other = some .directory := by
  by_cases hroot : other = []
  · rw [node?, if_pos hroot]
  · have hne : placeName other ≠ placeName place := by
      intro hname
      rw [← get?_of_node? hplace, ← hname] at hplace
      rw [node?, if_neg hroot] at hother
      exact hplace hother
    rw [node?, if_neg hroot] at hother ⊢
    rw [put, Dictionary.get?_insert, if_neg hne, hother]

/-- Steps still lead to where they led after a file was put at a place that is no directory. -/
lemma walk_put {steps start other : List String} (h : t.walk start steps = .ok other)
    (hplace : t.node? place ≠ some .directory) :
    (t.put place (.file bytes)).walk start steps = .ok other := by
  induction steps generalizing start with
  | nil => exact h
  | cons name steps ih =>
    obtain ⟨next, hstep, h⟩ := bind_eq_ok.1 h
    -- a step is made from a directory only
    have hdirectory : t.node? start = some .directory := by
      rw [step] at hstep
      split at hstep
      · assumption
      · simp at hstep
      · simp at hstep
    have hsame : (t.put place (.file bytes)).step start name = .ok next := by
      rw [step, node?_put_of_directory hdirectory hplace]
      rwa [step, hdirectory] at hstep
    exact bind_eq_ok.2 ⟨next, hsame, ih h⟩

/-- So does a path. -/
lemma locate_put {other : List String} (h : t.locate path = .ok other)
    (hplace : t.node? place ≠ some .directory) :
    (t.put place (.file bytes)).locate path = .ok other := by
  rw [locate] at h ⊢
  split at h
  · next hsteps =>
    rw [if_pos hsteps]
    exact walk_put h hplace
  · simp at h

/-! ## Directories -/

section

variable [Disk]

lemma file?_makeDirectory {start steps : List String} (h : t.makeDirectory start steps = .ok t') :
    t'.file? = t.file? := by
  obtain ⟨place, -, h⟩ := bind_eq_ok.1 h
  split at h
  · simp at h
  · next hnone =>
    split at h
    · simp at h
    · obtain rfl := Except.ok.inj h
      exact file?_put_directory hnone

lemma file?_ensureDirectory (t : FileTree) (start steps : List String) :
    (t.ensureDirectory start steps).tree.file? = t.file? := by
  rw [ensureDirectory]
  split
  · next h => exact file?_makeDirectory h
  · rfl

/-- **Making directories changes no file**, whether it fails or not. -/
theorem file?_ensureDirectories (t : FileTree) (start steps : List String) :
    (t.ensureDirectories start steps).tree.file? = t.file? := by
  induction steps with
  | nil => rfl
  | cons name before ih =>
    rw [ensureDirectories]
    split
    · next h => exact file?_makeDirectory h
    · dsimp only
      split
      · rw [file?_ensureDirectory, ih]
      · exact ih
    · rfl

/-! ## A file that is open -/

/-- A tree differs from another in one file only, the one that a path leads to. -/
structure Sets (t t' : FileTree) (path : Path) (place : List String) (bytes : ByteArray) :
    Prop where
  located : t'.locate path = .ok place
  ne_root : place ≠ []
  /-- The path does not ask for a directory. -/
  plain : path.directory = false
  files : t'.file? = Function.update t.file? (placeName place) (some bytes)

namespace Sets

omit [Disk] in
lemma file?_eq (h : Sets t t' path place bytes) : t'.file? (placeName place) = some bytes := by
  rw [h.files, Function.update_self]

omit [Disk] in
lemma node?_eq (h : Sets t t' path place bytes) : t'.node? place = some (.file bytes) := by
  have hfile := h.file?_eq
  rw [node?, if_neg h.ne_root]
  rw [file?] at hfile
  split at hfile
  · next heq => rw [heq, Option.some.inj hfile]
  · simp at hfile

omit [Disk] in
/-- Something else may be put in the file. -/
lemma put (h : Sets t t' path place bytes) (bytes' : ByteArray) :
    Sets t (t'.put place (.file bytes')) path place bytes' where
  located := locate_put h.located (by simp [h.node?_eq])
  ne_root := h.ne_root
  plain := h.plain
  files := by rw [file?_put, h.files, Function.update_idem]

/-- **One write to an open file** puts a beginning of its text behind what the file holds, and all
of it if the write is not stopped. -/
theorem extend (h : Sets t t' path place bytes) (text : String) :
    ∃ written, IsBeginning written text.toByteArray ∧
      Sets t (t'.extend place text).tree path place (bytes ++ written) ∧
      ((t'.extend place text).fault = none ∧ written = text.toByteArray ∨
        (∃ cause, (t'.extend place text).fault = some cause) ∧ ¬ Disk.Roomy) := by
  rw [FileTree.extend, h.file?_eq, Option.getD_some]
  cases hstop : Disk.stop? t' place text.toByteArray with
  | none =>
    exact ⟨text.toByteArray, ⟨.empty, ByteArray.append_empty.symm⟩, h.put _, .inl ⟨rfl, rfl⟩⟩
  | some stop =>
    obtain ⟨count, fault⟩ := stop
    refine ⟨_, isBeginning_extract _ count, h.put _, .inr ⟨⟨fault, rfl⟩, fun hroomy => ?_⟩⟩
    rw [hroomy] at hstop
    simp at hstop

/-- **Several writes to an open file**, up to one that is stopped. -/
theorem extendAll (h : Sets t t' path place bytes) (texts : List String) :
    ∃ written, IsBeginning written (String.join texts).toByteArray ∧
      Sets t (t'.extendAll place texts).tree path place (bytes ++ written) ∧
      ((t'.extendAll place texts).fault = none ∧ written = (String.join texts).toByteArray ∨
        (∃ cause, (t'.extendAll place texts).fault = some cause) ∧ ¬ Disk.Roomy) := by
  induction texts generalizing t' bytes with
  | nil =>
    refine ⟨.empty, ⟨.empty, rfl⟩, ?_, .inl ⟨rfl, rfl⟩⟩
    rwa [ByteArray.append_empty]
  | cons text texts ih =>
    obtain ⟨first, hfirst, hsets, hcases⟩ := h.extend text
    rw [String.join_cons, String.toByteArray_append, FileTree.extendAll]
    rcases hcases with ⟨hnone, rfl⟩ | ⟨⟨cause, hcause⟩, hroomy⟩
    · obtain ⟨others, hothers, hsets, hcases⟩ := ih hsets
      simp only [hnone]
      refine ⟨text.toByteArray ++ others, hothers.append _, ?_, ?_⟩
      · rwa [← ByteArray.append_assoc]
      · exact hcases.imp_left fun ⟨hnone, hall⟩ => ⟨hnone, by rw [hall]⟩
    · simp only [hcause]
      exact ⟨first, hfirst.append_right _, hsets, .inr ⟨⟨cause, rfl⟩, hroomy⟩⟩

end Sets

/-! ## Operations -/

/-- What is kept of a file that is opened to be written to. -/
def kept (keep : Bool) (held : Option ByteArray) : ByteArray :=
  if keep then held.getD .empty else .empty

/-- What an operation may have done that is to write a text to the file of a path, behind what is
kept of the file. -/
inductive Effect (t : FileTree) (path : Path) (keep : Bool) (text : String) : Change → Prop
  /-- It failed before the file was open. -/
  | refused {t' : FileTree} {fault : FileFault} (hfiles : t'.file? = t.file?) :
      Effect t path keep text ⟨t', some fault⟩
  /-- It was stopped in a write. -/
  | stopped {t' : FileTree} {place : List String} {written : ByteArray} {fault : FileFault}
      (hroomy : ¬ Disk.Roomy) (hwritten : IsBeginning written text.toByteArray)
      (hsets : Sets t t' path place (kept keep (t.file? (placeName place)) ++ written)) :
      Effect t path keep text ⟨t', some fault⟩
  | done {t' : FileTree} {place : List String}
      (hsets : Sets t t' path place (kept keep (t.file? (placeName place)) ++ text.toByteArray)) :
      Effect t path keep text ⟨t', none⟩

/-- It makes no difference to the effect of an operation which directories there are. -/
lemma Effect.of_file?_eq {keep : Bool} {text : String} {change : Change}
    (h : Effect t' path keep text change) (hfiles : t'.file? = t.file?) :
    Effect t path keep text change := by
  have hsets {after : FileTree} {place : List String} {bytes : ByteArray}
      (h : Sets t' after path place bytes) : Sets t after path place bytes :=
    ⟨h.located, h.ne_root, h.plain, hfiles ▸ h.files⟩
  cases h with
  | refused hsame => exact .refused (hsame.trans hfiles)
  | stopped hroomy hwritten h => exact .stopped hroomy hwritten (hfiles ▸ hsets h)
  | done h => exact .done (hfiles ▸ hsets h)

/-- A place that may be written to is that of a file, or there is nothing at it. -/
lemma target_eq_ok (h : t.target path = .ok place) :
    t.locate path = .ok place ∧ path.directory = false ∧ t.node? place ≠ some .directory := by
  obtain ⟨place', hlocate, h⟩ := bind_eq_ok.1 h
  split at h
  · simp at h
  · next hplain =>
    split at h
    · simp at h
    · obtain rfl := Except.ok.inj h
      rw [not_or, Bool.not_eq_true] at hplain
      exact ⟨hlocate, hplain.1, hplain.2⟩

/-- **Opening a file and writing to it.** -/
theorem effect_update (t : FileTree) (path : Path) (keep : Bool) (texts : List String) :
    Effect t path keep (String.join texts) (t.update path keep texts) := by
  rw [update]
  cases htarget : t.target path with
  | error fault => exact .refused rfl
  | ok place =>
    obtain ⟨hlocate, hplain, hplace⟩ := target_eq_ok htarget
    have hroot : place ≠ [] := fun hroot => hplace (by rw [node?, if_pos hroot])
    have hopen : Sets t (t.put place (.file (kept keep (t.file? (placeName place))))) path place
        (kept keep (t.file? (placeName place))) :=
      ⟨locate_put hlocate hplace, hroot, hplain, file?_put ..⟩
    obtain ⟨written, hwritten, hsets, hcases⟩ := hopen.extendAll texts
    show Effect t path keep _ (extendAll (t.put place (.file (kept keep _))) place texts)
    generalize extendAll _ place texts = change at hsets hcases ⊢
    obtain ⟨t', fault⟩ := change
    rcases hcases with ⟨rfl, rfl⟩ | ⟨⟨cause, rfl⟩, hroomy⟩
    · exact .done hsets
    · exact .stopped hroomy hwritten hsets

/-- **Writing a file** has one of these effects; directories may have been made as well. -/
theorem effect_write (t : FileTree) (path text : String) :
    Effect t (.ofString path) false text (t.write path text) := by
  rw [write]
  have habove := t.file?_ensureDirectories (t.start (.ofString path))
    (Path.ofString path).parentSteps.reverse
  generalize ensureDirectories t _ _ = above at habove ⊢
  obtain ⟨tree, fault⟩ := above
  cases fault with
  | some fault => exact .refused habove
  | none =>
    have hupdate := tree.effect_update (.ofString path) false [text]
    rw [String.join_cons, String.join_nil, String.append_empty] at hupdate
    exact hupdate.of_file?_eq habove

omit [Disk] in
/-- The disk is full after three bytes of a text: the file holds these. -/
example :
    let _ : Disk := ⟨fun _ _ _ => none, fun _ _ _ => some (3, .other "full")⟩
    FileTree.write ⟨.ofEntries [("work", .directory)], ["work"]⟩ "a" "text" =
      ⟨⟨.ofEntries [("work", .directory), ("work/a", .file "tex".toByteArray)], ["work"]⟩,
        some (.other "full")⟩ := by
  decide +kernel

/-- **Appending to a file** has one of these effects. -/
theorem effect_append (t : FileTree) (path : String) (texts : List String) :
    Effect t (.ofString path) true (String.join texts) (t.append path texts) :=
  t.effect_update (.ofString path) true texts

/-- **What was written is read**, unless the disk refuses that. -/
theorem read_write {path text : String} (h : t.write path text = ⟨t', none⟩)
    (hdisk : ∀ place, Disk.refusal? .reading t' place = none) : t'.read path = .ok text := by
  have heffect := t.effect_write path text
  rw [h] at heffect
  cases heffect with
  | done hsets =>
    have hempty (held : Option ByteArray) : kept false held ++ text.toByteArray =
        text.toByteArray := ByteArray.empty_append
    rw [hempty] at hsets
    have hbytes : t'.bytes (.ofString path) = .ok text.toByteArray := by
      refine bind_eq_ok.2 ⟨_, hsets.located, ?_⟩
      rw [hsets.node?_eq, hsets.plain, hdisk]
      rfl
    have htext : String.fromUTF8? text.toByteArray = some text := dif_pos text.isValidUTF8
    refine bind_eq_ok.2 ⟨_, hbytes, ?_⟩
    rw [htext]

end

end FileTree

end ImageTags
