import Mathlib
import ImageTags.Projection
import ImageTags.Proofs.Dictionaries
import ImageTags.Proofs.JsonReading
import ImageTags.Proofs.Steps

/-!
# Documents are read back

The documents for build tools go into JSON and come back from it.  Their JSON is built of texts, so
it is read back from either layout (`Json.parse?_compact`, `Json.parse?_pretty`); what remains is
that each part of a document is found again in its JSON: lists, dictionaries with the order of their
keys, and the argument for the version, which is left out where there is no version.

What is accepted is more than what is written: members may stand in any order, others may stand
between them, and a version that is `null` is none.  A document that was read from such a text is
written in its own form, and from then on nothing changes.

* `Json.dictionary?_ofMembers` — a dictionary in JSON.
* `TagDocument.ofJson?_toJson`, `BuildTarget.ofJson?_toJson`, `BuildDocument.ofJson?_toJson` — the
  documents in JSON.
* **`parse_of_mem_layouts`** — the documents as texts, in both layouts.
-/

namespace ImageTags

open Json

/-! ## Parts of a document -/

namespace Json

lemma isText_ofTexts (texts : List String) : IsText (ofTexts texts) := by
  refine .array fun e he => ?_
  obtain ⟨s, -, rfl⟩ := List.mem_map.1 he
  exact .text s

lemma list?_ofTexts (texts : List String) : list? text? (ofTexts texts) = some texts := by
  have hread : (texts.map ofText).mapM text? = pure (texts.map id) :=
    mapM_map_eq_pure fun s _ => rfl
  rw [ofTexts, list?, hread, List.map_id]
  rfl

lemma namedMembers?_ofMembers (members : List (String × Json)) :
    namedMembers? (members.map fun (name, value) => (some name, value)) = some members := by
  have hread : namedMembers? (members.map fun (name, value) => (some name, value)) =
      pure (members.map id) :=
    mapM_map_eq_pure fun member _ => rfl
  rw [hread, List.map_id]
  rfl

/-- The fields of a record that has each of them once. -/
lemma fields?_ofMembers (members : List (String × Json)) (names : List String) (spare : Nat)
    (h : (members.map Prod.fst).Nodup) :
    fields? names spare (ofMembers members) = some members := by
  have hone : ∀ name, members.countP (·.1 = name) ≤ 1 := by
    intro name
    have hcount := List.nodup_iff_count_le_one.1 h name
    rw [List.count_eq_countP, List.countP_map] at hcount
    exact hcount
  rw [ofMembers, fields?, namedMembers?_ofMembers]
  simp [hone]

variable {α : Type} {read? : Json → Option α} {toJson : α → Json}

/-- **A dictionary is found again** with its keys in their order, if its values are. -/
theorem dictionary?_ofMembers {d : Dictionary α}
    (h : ∀ e ∈ d.entries, read? (toJson e.2) = some e.2) :
    dictionary? read? (ofMembers (d.entries.map fun (key, value) => (key, toJson value))) =
      some d := by
  have hvalues : (d.entries.map fun (key, value) => (key, toJson value)).mapM
      (fun (name, value) => (read? value).map (name, ·)) = pure (d.entries.map id) := by
    refine mapM_map_eq_pure fun e he => ?_
    simp only [h e he]
    rfl
  rw [ofMembers, dictionary?, namedMembers?_ofMembers]
  simp only [bind, Option.bind, hvalues, List.map_id, pure, Dictionary.ofEntries_entries]

end Json

lemma isText_textsToJson (texts : Dictionary String) : IsText (textsToJson texts) := by
  refine .object fun m hm => ?_
  obtain ⟨e, -, rfl⟩ := List.mem_map.1 hm
  exact .text e.2

lemma dictionary?_textsToJson (texts : Dictionary String) :
    dictionary? text? (textsToJson texts) = some texts :=
  dictionary?_ofMembers fun _ _ => rfl

/-! ## Documents in JSON -/

namespace TagDocument

lemma isText_toJson (d : TagDocument) : IsText d.toJson := by
  refine .object ?_
  simp only [List.forall_mem_cons, List.not_mem_nil, false_imp_iff, implies_true, and_true]
  exact ⟨isText_ofTexts d.tags, isText_textsToJson d.labels⟩

theorem ofJson?_toJson (d : TagDocument) : ofJson? d.toJson = some d := by
  rw [ofJson?, toJson, fields?_ofMembers _ _ _ (by simp)]
  simp [List.lookup, list?_ofTexts, dictionary?_textsToJson]

end TagDocument

namespace BuildTarget

/-- The arguments of a target, as members of an object. -/
def argumentMembers (t : BuildTarget) : List (String × Json) :=
  ("IMAGES", ofText t.images) ::
    match t.version with
    | some version => [("VERSION", ofText version)]
    | none => []

lemma toJson_eq (t : BuildTarget) :
    t.toJson = ofMembers [("tags", ofTexts t.tags), ("labels", textsToJson t.labels),
      ("args", ofMembers t.argumentMembers)] := rfl

lemma isText_arguments (t : BuildTarget) : IsText (ofMembers t.argumentMembers) := by
  refine .object ?_
  rw [argumentMembers, List.forall_mem_cons]
  refine ⟨.text _, ?_⟩
  cases t.version with
  | none => simp
  | some version => exact List.forall_mem_singleton.2 (.text version)

lemma isText_toJson (t : BuildTarget) : IsText t.toJson := by
  rw [toJson_eq]
  refine .object ?_
  simp only [List.forall_mem_cons, List.not_mem_nil, false_imp_iff, implies_true, and_true]
  exact ⟨isText_ofTexts t.tags, isText_textsToJson t.labels, t.isText_arguments⟩

/-- The argument for the version is missing if and only if there is no version. -/
lemma arguments?_argumentMembers (t : BuildTarget) :
    arguments? (ofMembers t.argumentMembers) = some (t.images, t.version) := by
  have hnodup : (t.argumentMembers.map Prod.fst).Nodup := by
    rw [argumentMembers]
    cases t.version <;> simp
  rw [arguments?, fields?_ofMembers _ _ _ hnodup, argumentMembers]
  cases t.version with
  | none => rfl
  | some version => rfl

theorem ofJson?_toJson (t : BuildTarget) : ofJson? t.toJson = some t := by
  rw [ofJson?, toJson_eq, fields?_ofMembers _ _ _ (by simp)]
  simp [List.lookup, list?_ofTexts, dictionary?_textsToJson, arguments?_argumentMembers]

end BuildTarget

namespace BuildDocument

lemma isText_toJson (d : BuildDocument) : IsText d.toJson := by
  refine .object (List.forall_mem_singleton.2 (.object fun m hm => ?_))
  obtain ⟨e, -, rfl⟩ := List.mem_map.1 hm
  exact e.2.isText_toJson

theorem ofJson?_toJson (d : BuildDocument) : ofJson? d.toJson = some d := by
  have htargets := dictionary?_ofMembers (d := d.targets) fun e _ => e.2.ofJson?_toJson
  rw [ofJson?, toJson, fields?_ofMembers _ _ _ (by simp)]
  simp [List.lookup, htargets]

end BuildDocument

/-! ## Documents as texts -/

/-- A JSON value as a text, without blanks and over several lines. -/
def Json.layouts (value : Json) : List String := [value.compact, value.pretty]

lemma Json.parse?_of_mem_layouts {value : Json} (h : IsText value) :
    ∀ text ∈ value.layouts, Json.parse? text = some value := by
  simp only [layouts, List.forall_mem_cons, List.not_mem_nil, false_imp_iff, implies_true,
    and_true]
  exact ⟨parse?_compact h, parse?_pretty h⟩

lemma TagDocument.parse_layouts (d : TagDocument) :
    ∀ text ∈ d.toJson.layouts, TagDocument.parse text = .ok d := by
  intro text htext
  rw [TagDocument.parse, parse?_of_mem_layouts d.isText_toJson text htext, Option.bind_some,
    d.ofJson?_toJson]

lemma BuildDocument.parse_layouts (d : BuildDocument) :
    ∀ text ∈ d.toJson.layouts, BuildDocument.parse text = .ok d := by
  intro text htext
  rw [BuildDocument.parse, parse?_of_mem_layouts d.isText_toJson text htext, Option.bind_some,
    d.ofJson?_toJson]

/-- **Documents are read back from both layouts**, with all their keys in the same order; and a
document that was read from any text is written in its own form and read back from that. -/
theorem parse_of_mem_layouts :
    (∀ d : TagDocument, ∀ text ∈ d.toJson.layouts, TagDocument.parse text = .ok d) ∧
    (∀ d : BuildDocument, ∀ text ∈ d.toJson.layouts, BuildDocument.parse text = .ok d) ∧
    (∀ (accepted : String) (d : TagDocument), TagDocument.parse accepted = .ok d →
      ∀ text ∈ d.toJson.layouts, TagDocument.parse text = .ok d) ∧
    (∀ (accepted : String) (d : BuildDocument), BuildDocument.parse accepted = .ok d →
      ∀ text ∈ d.toJson.layouts, BuildDocument.parse text = .ok d) :=
  ⟨TagDocument.parse_layouts, BuildDocument.parse_layouts, fun _ d _ => d.parse_layouts,
    fun _ d _ => d.parse_layouts⟩

set_option maxRecDepth 4000 in
/-- A build document whose members stand in another order, with a member that nobody asks for, a
version that is `null` and a label that comes twice. -/
theorem parse_of_other_form : ∃ accepted d,
    accepted = "\x7b\"target\":\x7b\"app\":\x7b\"args\":\x7b\"VERSION\":null,\"x\":1.5," ++
      "\"IMAGES\":\"b\"\x7d,\"labels\":\x7b\"k\":\"1\",\"l\":\"\\u00e9\",\"k\":\"3\"\x7d," ++
      "\"tags\":[ \"a\" ]\x7d\x7d\x7d" ∧
    BuildDocument.parse accepted = .ok d ∧
    d.toJson.compact = "\x7b\"target\":\x7b\"app\":\x7b\"tags\":[\"a\"]," ++
      "\"labels\":\x7b\"k\":\"3\",\"l\":\"é\"\x7d,\"args\":\x7b\"IMAGES\":\"b\"\x7d\x7d\x7d\x7d" ∧
    ∀ text ∈ d.toJson.layouts, BuildDocument.parse text = .ok d := by
  refine ⟨_, ⟨.ofEntries [("app", ⟨["a"], .ofEntries [("k", "3"), ("l", "é")], "b", none⟩)]⟩, rfl,
    ?accepted, ?compact, parse_of_mem_layouts.2.2.2 _ _ ?accepted⟩
  case accepted => cbv
  case compact => cbv

end ImageTags
