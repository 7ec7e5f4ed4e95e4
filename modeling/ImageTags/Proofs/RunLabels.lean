import Mathlib
import ImageTags.Proofs.VersionOutputs

/-!
# The labels of a run

The eight standard labels come first, and the labels that were configured are laid over them one
after the other.  Place and value of a label follow different rules: a key stands where it came
first, so a standard key stays among the first eight, and it has the value that came last.

Where a configured label is cut is said here without the reader of labels: its key ends before the
first equals sign, and its value is all that follows it.

* `Label.keyOf`, `Label.valueOf`, `Label.parse_eq` — how a configured label is read.
* `LabelSet.standardTable` — the standard labels with their values.
* `LabelSet.overlay_eq` — what laying labels over others does.
* **`Metadata.labels_of_compute`** — the labels of a run, their order and their values.
-/

namespace ImageTags

open Text

/-! ## Configured labels -/

/-- The part of a text before its first `sep`, and what is left of the text then. -/
lemma Text.takeWhile_ne_append {sep : Char} {before : List Char} (h : sep ∉ before)
    (after : List Char) :
    (before ++ sep :: after).takeWhile (· ≠ sep) = before ∧
      (before ++ sep :: after).dropWhile (· ≠ sep) = sep :: after := by
  have hall : ∀ c ∈ before, decide (c ≠ sep) = true := fun c hc =>
    decide_eq_true (ne_of_mem_of_not_mem hc h)
  rw [List.takeWhile_append_of_pos hall, List.dropWhile_append_of_pos hall]
  simp

/-- A text is cut at its first `sep`. -/
lemma Text.cutFirst_eq (sep : Char) (cs : List Char) :
    (cutFirst sep cs).1 = cs.takeWhile (· ≠ sep) ∧
      (cutFirst sep cs).2.getD [] = (cs.dropWhile (· ≠ sep)).drop 1 := by
  rw [cutFirst]
  cases h : splitFirst? sep cs with
  | none =>
    have hall : ∀ c ∈ cs, decide (c ≠ sep) = true := fun c hc =>
      decide_eq_true (ne_of_mem_of_not_mem hc (splitFirst?_eq_none_iff.1 h))
    rw [List.takeWhile_eq_self_iff.2 hall, List.dropWhile_eq_nil_iff.2 hall]
    exact ⟨rfl, rfl⟩
  | some pieces =>
    obtain ⟨before, after⟩ := pieces
    obtain ⟨rfl, hbefore⟩ := splitFirst?_eq_some_iff.1 h
    obtain ⟨htake, hdrop⟩ := takeWhile_ne_append hbefore after
    rw [htake, hdrop]
    exact ⟨rfl, rfl⟩

namespace Label

/-- The key of a configured label: what comes before its first equals sign. -/
def keyOf (entry : String) : String :=
  String.ofList (entry.toList.takeWhile (· ≠ '='))

/-- The value of a configured label: what comes after its first equals sign, if there is one. -/
def valueOf (entry : String) : String :=
  String.ofList ((entry.toList.dropWhile (· ≠ '=')).drop 1)

/-- **How a label is read**: by its key and its value, unless the key is empty. -/
theorem parse_eq (entry : String) :
    parse entry =
      if keyOf entry = "" then .error (.emptyKey entry) else .ok ⟨keyOf entry, valueOf entry⟩ := by
  obtain ⟨hkey, hvalue⟩ := cutFirst_eq '=' entry.toList
  have hempty : keyOf entry = "" ↔ (cutFirst '=' entry.toList).1 = [] := by
    rw [keyOf, hkey, ← String.toList_inj]
    simp
  by_cases h : keyOf entry = ""
  · rw [if_pos h, parse]
    exact if_pos (hempty.1 h)
  · rw [if_neg h, keyOf, valueOf, ← hkey, ← hvalue, parse]
    exact if_neg (mt hempty.2 h)

lemma equals_not_mem_keyOf (entry : String) : '=' ∉ (keyOf entry).toList := by
  intro hmem
  rw [keyOf, String.toList_ofList] at hmem
  simpa using List.mem_takeWhile_imp hmem

end Label

namespace LabelSet

/-- **Laying labels over others** sets the key of each to its value; those without a key are
dropped. -/
theorem overlay_eq (labels : LabelSet) (entries : List String) :
    labels.overlay entries =
      labels.insertAll ((entries.filter (Label.keyOf · ≠ "")).map fun entry =>
        (Label.keyOf entry, Label.valueOf entry)) := by
  induction entries generalizing labels with
  | nil => rfl
  | cons entry entries ih =>
    rw [overlay, List.foldl_cons, ← overlay, ih, Label.parse_eq]
    by_cases h : Label.keyOf entry = "" <;> simp [h]

/-- The keys that were there keep their places, and those that are new follow in the order in which
they first occur. -/
lemma keys_overlay (labels : LabelSet) (entries : List String) :
    (labels.overlay entries).keys =
      labels.keys ++ ((entries.map Label.keyOf).removeAll ("" :: labels.keys)).eraseDups := by
  rw [overlay_eq, Dictionary.keys_insertAll, List.map_map]
  congr 2
  induction entries with
  | nil => rfl
  | cons entry entries ih =>
    by_cases h : Label.keyOf entry = "" <;> simp_all [List.removeAll, List.filter_cons]

/-- A key is there afterwards if it was there before or is the key of a label and not empty. -/
lemma mem_keys_overlay {labels : LabelSet} {entries : List String} {key : String} :
    key ∈ (labels.overlay entries).keys ↔
      key ∈ labels.keys ∨ key ≠ "" ∧ ∃ entry ∈ entries, Label.keyOf entry = key := by
  rw [keys_overlay, List.mem_append, List.mem_eraseDups, List.removeAll, List.mem_filter]
  by_cases h : key ∈ labels.keys
  · simp [h]
  · simp [h, and_comm]

/-- The value of a key is that of the last label with this key. -/
lemma get?_overlay (labels : LabelSet) (entries : List String) {key : String} (h : key ≠ "") :
    (labels.overlay entries).get? key =
      ((entries.filter (Label.keyOf · = key)).getLast?.map Label.valueOf).or
        (labels.get? key) := by
  have hsame : ∀ entry, (decide (Label.keyOf entry = key) && decide (Label.keyOf entry ≠ "")) =
      decide (Label.keyOf entry = key) := by
    intro entry
    by_cases hkey : Label.keyOf entry = key <;> simp [hkey, h]
  rw [overlay_eq, Dictionary.get?_insertAll, List.filter_map, List.filter_filter,
    List.getLast?_map, Option.map_map]
  simp only [Function.comp_def, hsame]

/-! ## Standard labels -/

/-- The standard labels with `start` in front of their keys, in their order. -/
def standardTable (start : String) (repository : Repository) (version : Option String)
    (revision : String) (created : Calendar.Instant) : List (String × String) :=
  [(start ++ "org.opencontainers.image.title", repository.name),
   (start ++ "org.opencontainers.image.description", repository.description),
   (start ++ "org.opencontainers.image.url", repository.url),
   (start ++ "org.opencontainers.image.source", repository.url),
   (start ++ "org.opencontainers.image.version", version.getD ""),
   (start ++ "org.opencontainers.image.created", String.ofList created.timestamp),
   (start ++ "org.opencontainers.image.revision", revision),
   (start ++ "org.opencontainers.image.licenses", repository.license)]

variable {start : String} {repository : Repository} {version : Option String} {revision : String}
  {created : Calendar.Instant}

lemma keys_standardTable :
    (standardTable start repository version revision created).map Prod.fst =
      standardKeys.map fun name => start ++ standardKey name := rfl

/-- The keys of the standard labels are different, whatever is in front of them. -/
lemma nodup_keys_standardTable :
    ((standardTable start repository version revision created).map Prod.fst).Nodup := by
  simp [standardTable, ← String.toList_inj]

/-- The standard labels of a run are those of the table. -/
lemma entries_standard (repository : Repository) (version : Option String) (revision : String)
    (created : Calendar.Instant) (start : Option String) :
    (standard repository version revision created start).entries =
      standardTable (start.getD "") repository version revision created :=
  Dictionary.entries_foldl_insert (d := .empty) nodup_keys_standardTable

lemma keys_standard (repository : Repository) (version : Option String) (revision : String)
    (created : Calendar.Instant) (start : Option String) :
    (standard repository version revision created start).keys =
      standardKeys.map fun name => start.getD "" ++ standardKey name := by
  rw [Dictionary.keys, entries_standard, keys_standardTable]

/-- No label of a run has an empty key. -/
lemma ne_empty_of_mem_keys {labelStart : Option String} {entries : List String} :
    ∀ key ∈ ((standard repository version revision created labelStart).overlay entries).keys,
      key ≠ "" := by
  intro key hkey
  rw [mem_keys_overlay, keys_standard, List.mem_map] at hkey
  rcases hkey with ⟨name, -, rfl⟩ | ⟨hne, -⟩
  · intro hempty
    have hname := (String.append_eq_empty_iff.1 hempty).2
    unfold standardKey at hname
    simp at hname
  · exact hne

end LabelSet

/-- The start of label keys is no template. -/
lemma Flavor.labelStart_render {scope : Template.Scope} {written f : Flavor}
    (h : written.render scope = .ok f) : f.labelStart = written.labelStart := by
  obtain ⟨front, -, h⟩ := bind_eq_ok.1 h
  obtain ⟨back, -, h⟩ := bind_eq_ok.1 h
  obtain rfl := Except.ok.inj h
  rfl

/-! ## The labels of a run -/

namespace Metadata

section

variable [Calendar.Zones] [Pattern.Engine] {configuration : Configuration} {context : Context}
  {repository : Repository} {now : Calendar.Instant} {m : Metadata}

/-- The labels of a run are the standard ones with the configured ones laid over them. -/
lemma exists_overlay_of_compute (h : compute configuration context repository now = .ok m) :
    ∃ written, Flavor.parse configuration.flavor = .ok written ∧
      m.labels = (LabelSet.standard repository m.version.main? context.sha now
        written.labelStart).overlay configuration.labels := by
  obtain ⟨rules, written, f, images, s, -, hwritten, hf, -, -, rfl⟩ := compute_eq_ok_iff.1 h
  exact ⟨written, hwritten, by rw [Flavor.labelStart_render hf]⟩

/-- **The labels of a run.**  First come the keys of the standard labels, each with the flavor's
start in front of it, and then the other keys that were configured, in the order in which they first
occur.  No key comes twice and none is empty.  The value of a key is that of the last configured
label with this key; a standard label without one has its own. -/
theorem labels_of_compute (h : compute configuration context repository now = .ok m) :
    ∃ written, Flavor.parse configuration.flavor = .ok written ∧
      let table := LabelSet.standardTable (written.labelStart.getD "") repository m.version.main?
        context.sha now
      m.labels.keys = table.map Prod.fst ++
        ((configuration.labels.map Label.keyOf).removeAll ("" :: table.map Prod.fst)).eraseDups ∧
      m.labels.keys.Nodup ∧ (∀ key ∈ m.labels.keys, key ≠ "") ∧
      ∀ key, key ≠ "" → m.labels.get? key =
        ((configuration.labels.filter (Label.keyOf · = key)).getLast?.map Label.valueOf).or
          (table.lookup key) := by
  obtain ⟨written, hwritten, hlabels⟩ := exists_overlay_of_compute h
  refine ⟨written, hwritten, ?_⟩
  intro table
  have htable : (LabelSet.standard repository m.version.main? context.sha now
      written.labelStart).entries = table := LabelSet.entries_standard ..
  have hkeys : m.labels.keys = table.map Prod.fst ++
      ((configuration.labels.map Label.keyOf).removeAll ("" :: table.map Prod.fst)).eraseDups := by
    rw [hlabels, LabelSet.keys_overlay, Dictionary.keys, htable]
  have hne : ∀ key ∈ m.labels.keys, key ≠ "" := hlabels ▸ LabelSet.ne_empty_of_mem_keys
  refine ⟨hkeys, m.labels.keys_nodup, hne, fun key hkey => ?_⟩
  rw [hlabels, LabelSet.get?_overlay _ _ hkey, Dictionary.get?, htable]

set_option maxRecDepth 4000 in
/-- A run for a push to a branch, with one rule that gives a text as it is, succeeds if the flavor
can be read and rendered. -/
lemma exists_compute_of_text_rule (labels : List String) {flavor : List String} {written f : Flavor}
    (hwritten : Flavor.parse flavor = .ok written)
    (hf : written.render (Template.eventScope
      ⟨"refs/heads/main", "860c190", .epoch, "push", "", "main"⟩ .epoch) = .ok f) :
    ∃ m, compute ⟨[], ["a"], flavor, labels, "image"⟩
      ⟨"refs/heads/main", "860c190", .epoch, "push", "", "main"⟩ .unknown .epoch = .ok m := by
  obtain ⟨rules, hrules, hs⟩ : ∃ rules, TagRule.parseAll ["a"] = .ok rules ∧
      resolve ⟨"refs/heads/main", "860c190", .epoch, "push", "", "main"⟩ .epoch rules =
        .ok ⟨[⟨"a", none, none⟩], none⟩ :=
    ⟨[⟨.raw "a", 200, .ofEntries [("value", "a"), ("enable", "true"), ("priority", "200")]⟩],
      by cbv, by cbv⟩
  have himages : Image.parseAll [] = .ok [] := rfl
  obtain ⟨m, h, -⟩ := exists_compute_of_dress ⟨[], ["a"], flavor, labels, "image"⟩ .unknown hrules
    hwritten hf himages hs
  exact ⟨m, h⟩

end

open Builtin in
set_option maxRecDepth 4000 in
/-- A label that comes twice, one with the key of a standard label, one that only has it without the
start of the flavor, one without a value and one without a key. -/
theorem labels_of_overlaid_run : ∃ m : Metadata,
    compute ⟨[], ["a"], ["labelprefix=k."],
      ["b=1", "=x", "k.org.opencontainers.image.title=T=1", "c", "b=2",
        "org.opencontainers.image.url=u"], "image"⟩
      ⟨"refs/heads/main", "860c190", .epoch, "push", "", "main"⟩ .unknown .epoch = .ok m ∧
    m.labels.keys =
      ["k.org.opencontainers.image.title", "k.org.opencontainers.image.description",
        "k.org.opencontainers.image.url", "k.org.opencontainers.image.source",
        "k.org.opencontainers.image.version", "k.org.opencontainers.image.created",
        "k.org.opencontainers.image.revision", "k.org.opencontainers.image.licenses",
        "b", "c", "org.opencontainers.image.url"] ∧
    m.labels.get? "b" = some "2" ∧ m.labels.get? "c" = some "" ∧
    m.labels.get? "k.org.opencontainers.image.title" = some "T=1" ∧
    m.labels.get? "k.org.opencontainers.image.revision" = some "860c190" := by
  have hwritten : Flavor.parse ["labelprefix=k."] =
      .ok ⟨.auto, "", "", false, false, some "k."⟩ := by cbv
  obtain ⟨m, h⟩ := exists_compute_of_text_rule
    ["b=1", "=x", "k.org.opencontainers.image.title=T=1", "c", "b=2",
      "org.opencontainers.image.url=u"] hwritten (by cbv)
  obtain ⟨written, hwritten', hkeys, -, -, hvalues⟩ := labels_of_compute h
  obtain rfl := Except.ok.inj (hwritten.symm.trans hwritten')
  simp only [LabelSet.keys_standardTable] at hkeys
  exact ⟨m, h, hkeys.trans (by decide +kernel), (hvalues _ (by decide)).trans (by cbv),
    (hvalues _ (by decide)).trans (by cbv), (hvalues _ (by decide)).trans (by cbv),
    (hvalues _ (by decide)).trans (by cbv)⟩

end Metadata

end ImageTags
