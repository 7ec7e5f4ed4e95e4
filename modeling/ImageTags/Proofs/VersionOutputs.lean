import Mathlib
import ImageTags.Outputs
import ImageTags.Proofs.Documents
import ImageTags.Proofs.TagNames

/-!
# The version in the outputs

A run without a version and a run whose version is the empty text would look alike in the outputs.
There is no run of the second sort: an offer without a value counts for nothing, and what is put
around a value does not make it empty.  So the outputs tell whether there is a version, and all of
them tell the same: the version, the tags and the file for build tools.

* `Selection.value_ne_empty` — no candidate is without a value.
* `Flavor.ne_empty_of_mem_names_dress`, `Flavor.nodup_names_dress`, `Flavor.main?_dress`,
  `Flavor.latest_dress_of_empty` — the names of a selection.
* `Json.versionArguments` — what a file for build tools says about the version.
* `Metadata.compute_eq_ok_iff` — the stages of a run.
* **`Metadata.outputs_of_compute`** — the outputs of a run.
-/

namespace ImageTags

open Json

/-! ## Candidates -/

/-- **No candidate of a run of offers is without a value.** -/
theorem Selection.value_ne_empty (offers : List Offer) :
    ∀ c ∈ (ofOffers offers).candidates, c.value ≠ "" := by
  have hcounting : ∀ c ∈ Offer.countingCandidates offers, c.value ≠ "" := by
    intro c hc
    obtain ⟨o, ho, rfl⟩ := List.mem_map.1 hc
    simpa [Offer.counts] using (List.mem_filter.1 ho).2
  rw [candidates_ofOffers]
  split
  · exact fun c hc => absurd hc List.not_mem_nil
  · next main later heq =>
    rw [heq] at hcounting
    obtain ⟨hmain, hlater⟩ := List.forall_mem_cons.1 hcounting
    exact List.forall_mem_cons.2 ⟨hmain, fun c hc => hlater c (List.mem_filter.1 hc).1⟩

/-! ## Names -/

/-- Where repetitions were erased none is left. -/
lemma ImageVersion.nodup_eraseDups (names : List String) : names.eraseDups.Nodup := by
  induction names using List.reverseRecOn with
  | nil => exact List.nodup_nil
  | append_singleton names name ih =>
    rw [← addName_eraseDups, addName]
    split
    · exact ih
    · next hnew => exact List.concat_eq_append ▸ ih.concat hnew

namespace Flavor

variable {f : Flavor} {s : Selection}

lemma compose_ne_empty {c : Candidate} (h : c.value ≠ "") : f.compose c ≠ "" := by
  intro hempty
  simp only [compose, String.append_eq_empty_iff] at hempty
  exact h hempty.1.2

lemma latestTag_ne_empty : f.latestTag ≠ "" := by
  intro hempty
  simp only [latestTag, String.append_eq_empty_iff] at hempty
  exact absurd hempty.1.2 (by decide)

/-- **No name of a selection is empty** if its candidates have values. -/
theorem ne_empty_of_mem_names_dress (h : ∀ c ∈ s.candidates, c.value ≠ "") :
    ∀ name ∈ (f.dress s).names, name ≠ "" := by
  intro name hname
  rw [names_dress, List.mem_eraseDups, List.mem_append] at hname
  rcases hname with hname | hname
  · obtain ⟨c, hc, rfl⟩ := List.mem_map.1 hname
    exact compose_ne_empty (h c hc)
  · split at hname
    · exact List.mem_singleton.1 hname ▸ latestTag_ne_empty
    · exact absurd hname List.not_mem_nil

lemma nodup_names_dress : (f.dress s).names.Nodup := by
  rw [names_dress]
  exact ImageVersion.nodup_eraseDups _

lemma main?_dress : (f.dress s).main? = s.main?.map f.compose := by
  rw [ImageVersion.main?, names_dress, Selection.main?]
  cases hs : s.candidates with
  | nil =>
    have hlatest : ¬ (f.dress s).latest = true := by simp [latest_dress, hs]
    simp [hlatest]
  | cons main others =>
    rw [List.map_cons, List.cons_append, List.eraseDups_cons]
    rfl

/-- Without a name there is no latest version, whatever the flavor wants. -/
lemma latest_dress_of_empty (h : (f.dress s).main? = none) : (f.dress s).latest = false := by
  rw [main?_dress, Option.map_eq_none_iff, Selection.main?, List.head?_eq_none_iff] at h
  rw [← Bool.not_eq_true, latest_dress]
  exact fun hlatest => hlatest.1 h

end Flavor

/-! ## The outputs of a run -/

/-- The arguments for the version in a file for build tools, those of all its targets. -/
def Json.versionArguments (file : Json) : List Json :=
  match file.member? "target" with
  | some (.object targets) =>
    targets.filterMap fun target => (target.2.member? "args").bind (member? "VERSION")
  | _ => []

namespace Metadata

variable (m : Metadata)

/-- The tags in full are missing if and only if there is no name. -/
lemma tags_eq_nil_iff : m.tags = [] ↔ m.version.names = [] := by
  rw [tags, Image.qualify]
  cases Image.enabledNames m.images with
  | nil => rfl
  | cons image images =>
    refine ⟨fun h => ?_, fun h => by simp [h]⟩
    simpa using List.flatMap_eq_nil_iff.1 h image List.mem_cons_self

lemma names_eq_nil_iff : m.version.names = [] ↔ m.version.main? = none :=
  List.head?_eq_none_iff.symm

/-- The file for build tools has an argument for the version if and only if there is a version. -/
lemma versionArguments_buildDocument :
    m.buildDocument.toJson.versionArguments = m.version.main?.toList.map ofText := by
  cases hmain : m.version.main? with
  | none =>
    simp [buildDocument, BuildDocument.toJson, Dictionary.ofEntries, Dictionary.insert,
      Dictionary.empty, Dictionary.insertEntry, BuildTarget.toJson, versionArguments, member?,
      ofMembers, hmain, List.lookup]
  | some main =>
    simp [buildDocument, BuildDocument.toJson, Dictionary.ofEntries, Dictionary.insert,
      Dictionary.empty, Dictionary.insertEntry, BuildTarget.toJson, versionArguments, member?,
      ofMembers, hmain, List.lookup]

section

variable [Calendar.Zones] [Pattern.Engine] {m}

/-- **The stages of a run.**  A run succeeds if each of its stages does, and this is what it finds
out then. -/
theorem compute_eq_ok_iff {configuration : Configuration} {context : Context}
    {repository : Repository} {now : Calendar.Instant} :
    compute configuration context repository now = .ok m ↔
      ∃ rules written f images s, TagRule.parseAll configuration.tags = .ok rules ∧
        Flavor.parse configuration.flavor = .ok written ∧
        written.render (Template.eventScope context now) = .ok f ∧
        Image.parseAll configuration.images = .ok images ∧
        resolve context now rules = .ok s ∧
        m = ⟨f.dress s, images,
          (LabelSet.standard repository (f.dress s).main? context.sha now f.labelStart).overlay
            configuration.labels, configuration.buildTarget⟩ := by
  constructor
  · intro h
    obtain ⟨rules, hrules, h⟩ := bind_eq_ok.1 h
    obtain ⟨written, hwritten, h⟩ := bind_eq_ok.1 h
    obtain ⟨f, hf, h⟩ := bind_eq_ok.1 h
    obtain ⟨images, himages, h⟩ := bind_eq_ok.1 h
    obtain ⟨s, hs, h⟩ := bind_eq_ok.1 h
    exact ⟨rules, written, f, images, s, hrules, hwritten, hf, himages, hs,
      (Except.ok.inj h).symm⟩
  · rintro ⟨rules, written, f, images, s, hrules, hwritten, hf, himages, hs, rfl⟩
    simp only [compute, bind, Except.bind, hrules, hwritten, hf, himages, hs]

/-- The version of a run is a selection dressed by a flavor. -/
lemma exists_dress_of_compute {configuration : Configuration} {context : Context}
    {repository : Repository} {now : Calendar.Instant}
    (h : compute configuration context repository now = .ok m) :
    ∃ rules written f s, TagRule.parseAll configuration.tags = .ok rules ∧
      Flavor.parse configuration.flavor = .ok written ∧
      written.render (Template.eventScope context now) = .ok f ∧
      resolve context now rules = .ok s ∧ m.version = f.dress s := by
  obtain ⟨rules, written, f, images, s, hrules, hwritten, hf, -, hs, rfl⟩ := compute_eq_ok_iff.1 h
  exact ⟨rules, written, f, s, hrules, hwritten, hf, hs, rfl⟩

/-- A run succeeds if each of its stages does. -/
lemma exists_compute_of_dress (configuration : Configuration) (repository : Repository)
    {context : Context} {now : Calendar.Instant} {rules : List TagRule} {written f : Flavor}
    {images : List Image} {s : Selection}
    (hrules : TagRule.parseAll configuration.tags = .ok rules)
    (hwritten : Flavor.parse configuration.flavor = .ok written)
    (hf : written.render (Template.eventScope context now) = .ok f)
    (himages : Image.parseAll configuration.images = .ok images)
    (hs : resolve context now rules = .ok s) :
    ∃ m, compute configuration context repository now = .ok m ∧ m.version = f.dress s :=
  ⟨_, compute_eq_ok_iff.2
    ⟨rules, written, f, images, s, hrules, hwritten, hf, himages, hs, rfl⟩, rfl⟩

/-- **What the outputs of a run say about the version.**  No name of a tag is empty and none comes
twice; the first one is the version, which is the first candidate of the rules dressed by the
flavor.  Whether there is a version can be seen from each output, and where it is shown it is that
name.  Without a version the run does not make the latest one. -/
theorem outputs_of_compute {configuration : Configuration} {context : Context}
    {repository : Repository} {now : Calendar.Instant}
    (h : compute configuration context repository now = .ok m)
    (betweenTags betweenLabels : String) :
    (∀ name ∈ m.version.names, name ≠ "") ∧ m.version.names.Nodup ∧
    m.version.names.head? = m.version.main? ∧
    (∃ rules written f s, TagRule.parseAll configuration.tags = .ok rules ∧
      Flavor.parse configuration.flavor = .ok written ∧
      written.render (Template.eventScope context now) = .ok f ∧
      resolve context now rules = .ok s ∧ m.version.main? = s.main?.map f.compose) ∧
    (∃ file,
      Json.parse? (Outputs.render m betweenTags betweenLabels).buildFile = some file ∧
      [(Outputs.render m betweenTags betweenLabels).version = "", m.version.names = [],
        m.tags = [], file.versionArguments = [], m.version.main? = none].TFAE ∧
      ∀ main, m.version.main? = some main →
        (Outputs.render m betweenTags betweenLabels).version = main ∧
          file.versionArguments = [ofText main]) ∧
    (m.version.main? = none → m.version.latest = false) := by
  obtain ⟨rules, written, f, s, hrules, hwritten, hf, hs, hversion⟩ := exists_dress_of_compute h
  have hvalues : ∀ c ∈ s.candidates, c.value ≠ "" := by
    obtain ⟨offers, -, hselection⟩ := bind_eq_ok.1 hs
    obtain rfl := Except.ok.inj hselection
    exact Selection.value_ne_empty _
  have hne : ∀ name ∈ m.version.names, name ≠ "" :=
    hversion ▸ Flavor.ne_empty_of_mem_names_dress hvalues
  have hnodup : m.version.names.Nodup := hversion ▸ Flavor.nodup_names_dress
  have hshown : (Outputs.render m betweenTags betweenLabels).version = "" ↔
      m.version.main? = none := by
    show m.version.main?.getD "" = "" ↔ _
    cases hmain : m.version.main? with
    | none => simp
    | some main =>
      simpa using hne main (List.mem_of_head? hmain)
  have harguments := m.versionArguments_buildDocument
  refine ⟨hne, hnodup, rfl,
    ⟨rules, written, f, s, hrules, hwritten, hf, hs, ?_⟩,
    ⟨m.buildDocument.toJson, parse?_pretty m.buildDocument.isText_toJson, ?_, fun main hmain => ?_⟩,
    fun hnone => ?_⟩
  · rw [hversion, Flavor.main?_dress]
  · rw [harguments]
    -- each of them depends on whether there is a main name, the tags by way of the names
    tfae_have 1 ↔ 5 := hshown
    tfae_have 2 ↔ 5 := m.names_eq_nil_iff
    tfae_have 3 ↔ 2 := m.tags_eq_nil_iff
    tfae_have 4 ↔ 5 := by simp
    tfae_finish
  · rw [harguments, hmain]
    exact ⟨by simp [Outputs.render, hmain], rfl⟩
  · rw [hversion] at hnone ⊢
    exact Flavor.latest_dress_of_empty hnone

end

open Builtin in
set_option maxRecDepth 4000 in
/-- The tag `latest` is wanted whatever happens.  In one run no rule has a value: one is given an
empty text, one a template that renders to it.  In the other a rule has one, and another rule blanks
the texts around its own. -/
theorem outputs_of_forced_latest : ∃ nothing something : Metadata,
    compute ⟨["user/app"], ["value=", "value=\x7b\x7bbase_ref\x7d\x7d"],
      ["latest=true,prefix=v"], [], "image"⟩
      ⟨"refs/heads/main", "860c190", .epoch, "push", "", "main"⟩ .unknown .epoch = .ok nothing ∧
    (Outputs.render nothing "," ",").version = "" ∧ nothing.tags = [] ∧
    nothing.version.latest = false ∧
    compute ⟨["user/app"], ["value=a", "latest,prefix="], ["latest=true,prefix=v"], [], "image"⟩
      ⟨"refs/heads/main", "860c190", .epoch, "push", "", "main"⟩ .unknown .epoch = .ok something ∧
    something.version.names = ["va", "latest"] ∧
    (Outputs.render something "," ",").version = "va" := by
  let event : Context := ⟨"refs/heads/main", "860c190", .epoch, "push", "", "main"⟩
  obtain ⟨f, hwritten, hf, hnames⟩ : ∃ f, Flavor.parse ["latest=true,prefix=v"] = .ok f ∧
      f.render (Template.eventScope event .epoch) = .ok f ∧
      (f.dress ⟨[⟨"a", none, none⟩, ⟨"latest", some "", none⟩], none⟩).names = ["va", "latest"] :=
    ⟨⟨.always, "v", "", false, false, none⟩, by cbv, by cbv, by cbv⟩
  obtain ⟨images, himages⟩ : ∃ images, Image.parseAll ["user/app"] = .ok images :=
    ⟨[⟨"user/app", true⟩], by decide +kernel⟩
  obtain ⟨rules, hrules, hs⟩ : ∃ rules,
      TagRule.parseAll ["value=", "value=\x7b\x7bbase_ref\x7d\x7d"] = .ok rules ∧
      resolve event .epoch rules = .ok .empty :=
    ⟨[⟨.raw "", 200, .ofEntries [("value", ""), ("enable", "true"), ("priority", "200")]⟩,
      ⟨.raw "\x7b\x7bbase_ref\x7d\x7d", 200, .ofEntries
        [("value", "\x7b\x7bbase_ref\x7d\x7d"), ("enable", "true"), ("priority", "200")]⟩],
      by cbv, by cbv⟩
  obtain ⟨rules', hrules', hs'⟩ : ∃ rules,
      TagRule.parseAll ["value=a", "latest,prefix="] = .ok rules ∧
      resolve event .epoch rules = .ok ⟨[⟨"a", none, none⟩, ⟨"latest", some "", none⟩], none⟩ :=
    ⟨[⟨.raw "a", 200, .ofEntries [("value", "a"), ("enable", "true"), ("priority", "200")]⟩,
      ⟨.raw "latest", 200, .ofEntries
        [("value", "latest"), ("prefix", ""), ("enable", "true"), ("priority", "200")]⟩],
      by cbv, by cbv⟩
  obtain ⟨nothing, hnothing, hversion⟩ := exists_compute_of_dress
    ⟨["user/app"], ["value=", "value=\x7b\x7bbase_ref\x7d\x7d"], ["latest=true,prefix=v"], [],
      "image"⟩ .unknown hrules hwritten hf himages hs
  obtain ⟨something, hsomething, hversion'⟩ := exists_compute_of_dress
    ⟨["user/app"], ["value=a", "latest,prefix="], ["latest=true,prefix=v"], [], "image"⟩ .unknown
    hrules' hwritten hf himages hs'
  have hnone : nothing.version.main? = none := by
    rw [hversion]
    rfl
  have hmain : something.version.main? = some "va" := by
    rw [ImageVersion.main?, hversion', hnames]
    rfl
  obtain ⟨-, -, -, -, ⟨_, -, htfae, -⟩, hlatest⟩ := outputs_of_compute hnothing "," ","
  obtain ⟨-, -, -, -, ⟨_, -, -, hshown⟩, -⟩ := outputs_of_compute hsomething "," ","
  exact ⟨nothing, something, hnothing, (htfae.out 0 4).2 hnone, (htfae.out 2 4).2 hnone,
    hlatest hnone, hsomething, by rw [hversion', hnames], (hshown _ hmain).1⟩

end Metadata

end ImageTags
