import Mathlib
import ImageTags.Proofs.RunLabels

/-!
# The lines of labels are read back

A label is written as its key, an equals sign and its value, and read with its key up to the first
equals sign.  So the lines of labels give back the labels if no key has an equals sign in it, and
otherwise they do not.  Configured labels have no such key, since they were read in the same way,
and neither do the standard ones by themselves.  What decides is the start that a flavor puts in
front of the standard keys, which may be any text.

* `Label.parse_text_of_key` — one line.
* `LabelSet.tfae_lines` — the lines of labels none of whose keys is empty.
* `Metadata.equals_not_mem_keys_iff` — which keys a run has.
* **`Metadata.labels_of_lines`** — the lines of a run, and the labels in its documents.
-/

namespace ImageTags

open Text

/-! ## One line -/

namespace Label

lemma toList_text (label : Label) :
    label.text.toList = label.key.toList ++ '=' :: label.value.toList := by
  simp [text]

lemma keyOf_text {label : Label} (h : '=' ∉ label.key.toList) : keyOf label.text = label.key := by
  rw [keyOf, toList_text, (takeWhile_ne_append h _).1, String.ofList_toList]

lemma valueOf_text {label : Label} (h : '=' ∉ label.key.toList) :
    valueOf label.text = label.value := by
  rw [valueOf, toList_text, (takeWhile_ne_append h _).2, List.drop_one, List.tail_cons,
    String.ofList_toList]

/-- **A label is read back from its line** if its key is not empty and has no equals sign. -/
theorem parse_text_of_key {label : Label} (h : '=' ∉ label.key.toList) (hne : label.key ≠ "") :
    parse label.text = .ok label := by
  rw [parse_eq, keyOf_text h, valueOf_text h, if_neg hne]

end Label

/-! ## All lines -/

namespace LabelSet

/-- Laying over labels that can be read sets their keys one after the other. -/
lemma overlay_of_mapM {labels : LabelSet} {entries : List String} {read : List Label}
    (h : entries.mapM Label.parse = .ok read) :
    labels.overlay entries = labels.insertAll (read.map fun label => (label.key, label.value)) := by
  induction entries generalizing labels read with
  | nil =>
    obtain rfl := Except.ok.inj h
    rfl
  | cons entry entries ih =>
    obtain ⟨label, hlabel, others, hothers, rfl⟩ := mapM_cons_eq_ok.1 h
    rw [overlay, List.foldl_cons, ← overlay, hlabel, ih hothers]
    rfl

/-- **When labels are read back from their lines.**  No key of theirs is empty.  If no key has an
equals sign, each line is read as the label it was written for, and then they are the same labels in
the same order; and that does not come about in another way. -/
theorem tfae_lines {labels : LabelSet} (hne : ∀ key ∈ labels.keys, key ≠ "") :
    [∀ key ∈ labels.keys, '=' ∉ key.toList,
      labels.lines.mapM Label.parse = .ok labels.toList,
      overlay .empty labels.lines = labels].TFAE := by
  tfae_have 1 → 2 := by
    intro hequals
    have hparse : ∀ label ∈ labels.toList, Label.parse label.text = .ok (id label) := by
      intro label hlabel
      obtain ⟨entry, hentry, rfl⟩ := List.mem_map.1 hlabel
      have hkey : entry.1 ∈ labels.keys := List.mem_map_of_mem hentry
      exact Label.parse_text_of_key (hequals _ hkey) (hne _ hkey)
    rw [lines, mapM_map_eq_ok hparse, List.map_id]
  tfae_have 2 → 3 := by
    intro hread
    have hentries : labels.toList.map (fun label => (label.key, label.value)) = labels.entries := by
      rw [toList, List.map_map]
      exact List.map_id _
    rw [overlay_of_mapM hread, hentries]
    exact Dictionary.ofEntries_entries labels
  tfae_have 3 → 1 := by
    intro hsame key hkey
    rw [← hsame, mem_keys_overlay] at hkey
    -- a key that was read ends before the first equals sign
    rcases hkey with hkey | ⟨-, entry, -, rfl⟩
    · exact absurd hkey List.not_mem_nil
    · exact Label.equals_not_mem_keyOf entry
  tfae_finish

end LabelSet

/-! ## The lines of a run -/

namespace Metadata

/-- No key of a run has an equals sign if the flavor puts none in front of the standard keys. -/
lemma equals_not_mem_keys_iff {version : Option String} {revision : String}
    {created : Calendar.Instant} {start : Option String} {entries : List String} :
    (∀ key ∈ ((LabelSet.standard repository version revision created start).overlay entries).keys,
      '=' ∉ key.toList) ↔ '=' ∉ (start.getD "").toList := by
  have hnames : ∀ name ∈ LabelSet.standardKeys, '=' ∉ (LabelSet.standardKey name).toList := by
    decide +kernel
  simp only [LabelSet.mem_keys_overlay, LabelSet.keys_standard, List.mem_map]
  constructor
  · intro hkeys hmem
    refine hkeys _ (Or.inl ⟨"title", List.mem_cons_self, rfl⟩) ?_
    rw [String.toList_append]
    exact List.mem_append_left _ hmem
  · rintro hstart key (⟨name, hname, rfl⟩ | ⟨-, entry, -, rfl⟩)
    · rw [String.toList_append, List.mem_append, not_or]
      exact ⟨hstart, hnames name hname⟩
    · exact Label.equals_not_mem_keyOf entry

section

variable [Calendar.Zones] [Pattern.Engine] {configuration : Configuration} {context : Context}
  {repository : Repository} {now : Calendar.Instant} {m : Metadata}

/-- When the labels of a run are read back from their lines. -/
lemma tfae_lines_of_compute (h : compute configuration context repository now = .ok m) :
    ∃ written, Flavor.parse configuration.flavor = .ok written ∧
      ['=' ∉ (written.labelStart.getD "").toList,
        (LabelSet.lines m.labels).mapM Label.parse = .ok (LabelSet.toList m.labels),
        LabelSet.overlay .empty (LabelSet.lines m.labels) = m.labels].TFAE := by
  obtain ⟨written, hwritten, hlabels⟩ := exists_overlay_of_compute h
  have hne : ∀ key ∈ m.labels.keys, key ≠ "" := hlabels ▸ LabelSet.ne_empty_of_mem_keys
  have hequals : (∀ key ∈ m.labels.keys, '=' ∉ key.toList) ↔
      '=' ∉ (written.labelStart.getD "").toList := hlabels ▸ equals_not_mem_keys_iff
  refine ⟨written, hwritten, ?_⟩
  rw [← hequals]
  exact LabelSet.tfae_lines hne

/-- **The labels of a run are read back from their lines** if and only if the flavor puts no equals
sign in front of the standard keys; then every line is read as its own label.  The documents of the
run hold the same labels, whatever the flavor is. -/
theorem labels_of_lines (h : compute configuration context repository now = .ok m)
    (betweenTags betweenLabels : String) :
    (∃ written, Flavor.parse configuration.flavor = .ok written ∧
      ['=' ∉ (written.labelStart.getD "").toList,
        (LabelSet.lines m.labels).mapM Label.parse = .ok (LabelSet.toList m.labels),
        LabelSet.overlay .empty (LabelSet.lines m.labels) = m.labels].TFAE) ∧
    (∃ d, TagDocument.parse (Outputs.render m betweenTags betweenLabels).json = .ok d ∧
      d.labels = m.labels) ∧
    ∃ d, BuildDocument.parse (Outputs.render m betweenTags betweenLabels).buildFile = .ok d ∧
      d.targets.entries.map (fun (name, target) => (name, target.labels)) =
        [(m.buildTarget, m.labels)] := by
  have hlayout {value : Json} : value.pretty ∈ value.layouts :=
    List.mem_cons_of_mem _ List.mem_cons_self
  exact ⟨tfae_lines_of_compute h,
    ⟨m.tagDocument, m.tagDocument.parse_layouts _ hlayout, rfl⟩,
    m.buildDocument, m.buildDocument.parse_layouts _ hlayout, rfl⟩

end

open Builtin in
set_option maxRecDepth 4000 in
/-- A start without an equals sign, and configured labels with one in the value or with none at
all. -/
theorem labels_of_dotted_lines : ∃ m d,
    compute ⟨[], ["a"], ["labelprefix=k."], ["b=1=2", "c"], "image"⟩
      ⟨"refs/heads/main", "860c190", .epoch, "push", "", "main"⟩ .unknown .epoch = .ok m ∧
    LabelSet.overlay .empty (LabelSet.lines m.labels) = m.labels ∧
    TagDocument.parse (Outputs.render m "," ",").json = .ok d ∧
    d.labels = LabelSet.overlay .empty (LabelSet.lines m.labels) := by
  have hwritten : Flavor.parse ["labelprefix=k."] =
      .ok ⟨.auto, "", "", false, false, some "k."⟩ := by cbv
  obtain ⟨m, h⟩ := exists_compute_of_text_rule ["b=1=2", "c"] hwritten (by cbv)
  obtain ⟨⟨written, hwritten', htfae⟩, ⟨d, hd, hlabels⟩, -⟩ := labels_of_lines h "," ","
  obtain rfl := Except.ok.inj (hwritten.symm.trans hwritten')
  have hsame : LabelSet.overlay .empty (LabelSet.lines m.labels) = m.labels :=
    (htfae.out 0 2).1 (by decide)
  exact ⟨m, d, h, hsame, hd, hlabels.trans hsame.symm⟩

open Builtin in
set_option maxRecDepth 4000 in
/-- A flavor that puts an equals sign in front of the standard keys: the lines do not give back the
labels, though no directive has a line feed in it. -/
theorem labels_lost_in_lines : ∃ m : Metadata,
    compute ⟨[], ["a"], ["labelprefix=a="], [], "image"⟩
      ⟨"refs/heads/main", "860c190", .epoch, "push", "", "main"⟩ .unknown .epoch = .ok m ∧
    '\n' ∉ "labelprefix=a=".toList ∧
    LabelSet.overlay .empty (LabelSet.lines m.labels) ≠ m.labels := by
  have hwritten : Flavor.parse ["labelprefix=a="] =
      .ok ⟨.auto, "", "", false, false, some "a="⟩ := by cbv
  obtain ⟨m, h⟩ := exists_compute_of_text_rule [] hwritten (by cbv)
  obtain ⟨written, hwritten', htfae⟩ := tfae_lines_of_compute h
  obtain rfl := Except.ok.inj (hwritten.symm.trans hwritten')
  refine ⟨m, h, by decide, fun hsame => ?_⟩
  have hequals : '=' ∉ "a=".toList := (htfae.out 2 0).1 hsame
  exact hequals (by decide)

end Metadata

end ImageTags
