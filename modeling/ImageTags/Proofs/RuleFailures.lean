import Mathlib
import ImageTags.Proofs.RuleListing
import ImageTags.Proofs.UnstableTags

/-!
# What can go wrong when rules are used

Whatever is malformed in a rule is found when the rule is read, but for its templates: they are
only rendered when the rule is used.  So a run of rules that were read can fail in two ways.  An
attribute cannot be rendered, or `enable` renders to something else than the two words for it.  In
particular a pattern that was accepted is never refused later: the rule keeps the text of the
attribute and the program that this text is compiled to.

A text without opening braces is no template, so it renders to itself.  Hence rules without such
braces that are plainly switched on or off cannot fail at all.

* `Template.render_eq_error` — what is to blame where a template cannot be rendered.
* `TagRule.Raises` — the failures that a rule can raise when it is used.
* `Rule.value?_eq_error`, `TagRule.offer?_eq_error` — one rule.
* **`resolve_eq_error`** — all rules of a run.
-/

namespace ImageTags

open Text Template
open Calendar (Instant)

/-! ## Templates -/

/-- A failure for which a template is to blame, which has opening braces then. -/
def Failure.BlamesTemplate (failure : Failure) (template : String) : Prop :=
  containsText opening template.toList = true ∧ ∃ fault, failure = .template template fault

/-- **A template that cannot be rendered is to blame itself.** -/
theorem Template.render_eq_error {scope : Scope} {template : String} {failure : Failure}
    (h : render scope template = .error failure) : failure.BlamesTemplate template := by
  constructor
  · by_contra hplain
    rw [render_of_plain (Bool.eq_false_iff.2 hplain)] at h
    simp at h
  · rw [render] at h
    cases hs : (segment template.toList).render scope with
    | ok text => simp [hs, Except.mapError] at h
    | error fault =>
      rw [hs] at h
      exact ⟨fault, (Except.error.inj h).symm⟩

variable {context : Context} {now : Instant} {failure : Failure}

/-! ## Values of rules -/

/-- The pattern for unstable versions that takes the place of a rule's own can be rendered. -/
lemma VersionReading.value_eq_error {v : VersionReading} {pattern : String}
    (h : v.value pattern = .error failure) : failure.BlamesTemplate pattern := by
  rw [value] at h
  rcases bind_eq_error.1 h with h | ⟨text, -, h⟩
  · split at h
    · rw [unstablePattern] at h
      split at h
      · exact render_eq_error h
      · simp [render_version] at h
    · exact render_eq_error h
  · simp at h

section

variable [Calendar.Zones]

lemma versionSource?_eq_error {value : String}
    (h : versionSource? context now value = .error failure) : failure.BlamesTemplate value := by
  rw [versionSource?] at h
  split at h
  · simp at h
  · exact render_eq_error (map_eq_error.1 h)

variable [Pattern.Engine]

/-- **One of its texts is to blame if a rule has no value because of a failure.** -/
theorem Rule.value?_eq_error {rule : Rule} (h : rule.value? context now = .error failure) :
    ∃ pair ∈ rule.texts, failure.BlamesTemplate pair.2 := by
  cases rule with
  | schedule pattern =>
    rw [value?] at h
    split at h
    · rcases bind_eq_error.1 h with h | ⟨text, -, h⟩
      · exact ⟨("pattern", pattern), by simp [texts], render_eq_error h⟩
      · simp at h
    · simp at h
  | version dialect pattern value =>
    rcases bind_eq_error.1 h with h | ⟨source, -, h⟩
    · exact ⟨("value", value), by simp [texts], versionSource?_eq_error h⟩
    · split at h
      · rcases bind_eq_error.1 h with h | ⟨found, -, h⟩
        · exact ⟨("pattern", pattern), by simp [texts], VersionReading.value_eq_error h⟩
        · simp at h
      · simp at h
  | matching matcher group value =>
    rcases bind_eq_error.1 h with h | ⟨source, -, h⟩
    · exact ⟨("value", value), by simp [texts], versionSource?_eq_error h⟩
    · simp at h
  | edge branch => simp [value?] at h
  | ref event => simp [value?] at h
  | raw value =>
    rcases bind_eq_error.1 h with h | ⟨text, -, h⟩
    · exact ⟨("value", value), by simp [texts], render_eq_error h⟩
    · simp at h
  | sha format => simp [value?] at h

/-! ## One rule -/

namespace TagRule

/-- Whether a text is one of the two words that switch a rule on and off, in any letter case and
with blanks around it or without. -/
def IsSwitch (text : String) : Prop :=
  asciiLowerCase (trim text.toList) = "true".toList ∨
    asciiLowerCase (trim text.toList) = "false".toList

/-- The failures that a rule can raise when it is used. -/
inductive Raises (context : Context) (now : Instant) (r : TagRule) : Failure → Prop
  /-- The attribute `enable` renders to neither of the two words. -/
  | enable {text : String} (hrender : render (eventScope context now) r.enabling = .ok text)
      (hswitch : ¬ IsSwitch text) : Raises context now r (.enable text)
  /-- An attribute is a template that cannot be rendered. -/
  | template {key text : String} {fault : TemplateFault}
      (hattribute : r.attributes.get? key = some text)
      (hbraces : containsText opening text.toList = true) :
      Raises context now r (.template text fault)

lemma Raises.of_blamesTemplate {r : TagRule} {key text : String}
    (hattribute : r.attributes.get? key = some text) (h : failure.BlamesTemplate text) :
    r.Raises context now failure := by
  obtain ⟨hbraces, fault, rfl⟩ := h
  exact .template hattribute hbraces

omit [Calendar.Zones] in
/-- The switch of a rule is an attribute, unless it is the word that is used without one. -/
lemma get?_enable_of_braces {r : TagRule} (h : containsText opening r.enabling.toList = true) :
    r.attributes.get? "enable" = some r.enabling := by
  rw [enabling] at h ⊢
  cases hget : r.attributes.get? "enable" with
  | some text => rfl
  | none =>
    rw [hget] at h
    exact absurd h (by decide)

lemma isEnabled_eq_error {r : TagRule} (h : r.isEnabled context now = .error failure) :
    r.Raises context now failure := by
  rcases bind_eq_error.1 h with h | ⟨text, hrender, h⟩
  · have hblames := render_eq_error h
    exact .of_blamesTemplate (get?_enable_of_braces hblames.1) hblames
  · split at h
    · simp at h
    · simp at h
    · next htrue hfalse =>
      obtain rfl := Except.error.inj h
      refine .enable hrender ?_
      rintro (hswitch | hswitch)
      · exact htrue (by rw [hswitch, String.ofList_toList])
      · exact hfalse (by rw [hswitch, String.ofList_toList])

/-- A text at a side of a value fails as its template does. -/
lemma affix?_eq_error_iff {r : TagRule} {name : String} :
    r.affix? context now name = .error failure ↔ ∃ text, r.attributes.get? name = some text ∧
      render (eventScope context now) text = .error failure := by
  rw [affix?]
  cases r.attributes.get? name with
  | none => simp
  | some text => simp [map_eq_error]

lemma affix?_eq_error {r : TagRule} {name : String}
    (h : r.affix? context now name = .error failure) : r.Raises context now failure := by
  obtain ⟨template, hattribute, hrender⟩ := affix?_eq_error_iff.1 h
  exact .of_blamesTemplate hattribute (render_eq_error hrender)

/-- **The failure of one rule.**  A rule that was read raises no other failure when it is used. -/
theorem offer?_eq_error {r : TagRule} (hr : r.Settled)
    (h : r.offer? context now = .error failure) : r.Raises context now failure := by
  -- the switch comes first, then the value, then the texts around it
  rcases bind_eq_error.1 h with h | ⟨enabled, -, h⟩
  · exact isEnabled_eq_error h
  cases enabled with
  | false => simp at h
  | true =>
    rcases bind_eq_error.1 h with h | ⟨value, -, h⟩
    · obtain ⟨pair, hpair, hblames⟩ := Rule.value?_eq_error h
      exact .of_blamesTemplate (Rule.get?_of_mem_texts (hr.rule "") pair hpair) hblames
    cases value with
    | none => simp at h
    | some found =>
      rcases bind_eq_error.1 h with h | ⟨front, -, h⟩
      · exact affix?_eq_error h
      rcases bind_eq_error.1 h with h | ⟨back, -, h⟩
      · exact affix?_eq_error h
      simp at h

/-- A rule without braces that is plainly switched on or off raises no failure. -/
lemma not_raises {r : TagRule}
    (hplain : ∀ pair ∈ r.attributes.entries, containsText opening pair.2.toList = false)
    (hswitch : IsSwitch r.enabling) : ¬ r.Raises context now failure := by
  have hnone : ∀ {key text : String}, r.attributes.get? key = some text →
      containsText opening text.toList = false := fun hattribute =>
    hplain _ (Dictionary.mem_entries_of_get? hattribute)
  rintro (⟨hrender, hneither⟩ | ⟨hattribute, hbraces⟩)
  · have hself : containsText opening r.enabling.toList = false := by
      by_contra hbraces
      rw [Bool.not_eq_false] at hbraces
      exact absurd (hnone (get?_enable_of_braces hbraces)) (by simp [hbraces])
    rw [render_of_plain hself] at hrender
    exact hneither (Except.ok.inj hrender ▸ hswitch)
  · exact absurd (hnone hattribute) (by simp [hbraces])

omit [Calendar.Zones] in
/-- The switch of a rule that was read has no blanks around it. -/
lemma Settled.trim_enabling {r : TagRule} (h : r.Settled) :
    trim r.enabling.toList = r.enabling.toList := by
  rw [enabling]
  cases hget : r.attributes.get? "enable" with
  | none => decide
  | some text => exact (h.attributes _ (Dictionary.mem_entries_of_get? hget)).value

end TagRule

/-! ## All rules of a run -/

/-- **The failures of a run of rules that were read.**  A failure is about `enable` or about a
template, and one of the rules raises it.  The pattern of a match rule is the one that was accepted,
with its program.  Rules none of whose attributes has opening braces, each of them with one of the
two words for `enable`, do not fail. -/
theorem resolve_eq_error {directives : List String} {rules : List TagRule}
    (hrules : TagRule.parseAll directives = .ok rules) (context : Context) (now : Instant) :
    (∀ failure, resolve context now rules = .error failure →
      ((∃ text, failure = .enable text) ∨ ∃ text fault, failure = .template text fault) ∧
        ∃ r ∈ rules, r.Raises context now failure) ∧
    (∀ r ∈ rules, ∀ matcher group value, r.rule = .matching matcher group value →
      ∃ pattern, r.attributes.get? "pattern" = some pattern ∧
        Pattern.compile pattern = .ok matcher.program) ∧
    ((∀ r ∈ rules,
        (∀ pair ∈ r.attributes.entries, containsText opening pair.2.toList = false) ∧
          asciiLowerCase r.enabling.toList ∈ ["true".toList, "false".toList]) →
      ∃ s, resolve context now rules = .ok s) := by
  have hsettled : ∀ r ∈ rules, r.Settled := by
    intro r hr
    obtain ⟨directive, -, hparse⟩ := (TagRule.of_parseAll hrules).2.2 r hr
    exact TagRule.settled_of_parse hparse
  have hraises : ∀ failure, resolve context now rules = .error failure →
      ∃ r ∈ rules, r.Raises context now failure := by
    intro failure h
    rcases bind_eq_error.1 h with h | ⟨offers, -, h⟩
    · obtain ⟨r, hr, hfailure⟩ := exists_of_mapM_error h
      exact ⟨r, hr, TagRule.offer?_eq_error (hsettled r hr) hfailure⟩
    · simp at h
  refine ⟨fun failure h => ?_, fun r hr matcher group value hrule => ?_, fun hplain => ?_⟩
  · obtain ⟨r, hr, hfailure⟩ := hraises failure h
    refine ⟨?_, r, hr, hfailure⟩
    cases hfailure with
    | enable => exact Or.inl ⟨_, rfl⟩
    | template => exact Or.inr ⟨_, _, rfl⟩
  · have hmem : ("pattern", matcher.pattern) ∈ r.rule.texts := by
      rw [hrule]
      exact List.mem_cons_self
    exact ⟨matcher.pattern, Rule.get?_of_mem_texts ((hsettled r hr).rule "") _ hmem,
      matcher.compiled⟩
  · cases h : resolve context now rules with
    | ok s => exact ⟨s, rfl⟩
    | error failure =>
      obtain ⟨r, hr, hfailure⟩ := hraises failure h
      obtain ⟨hbraces, hword⟩ := hplain r hr
      have hswitch : TagRule.IsSwitch r.enabling := by
        rw [TagRule.IsSwitch, (hsettled r hr).trim_enabling]
        simpa using hword
      exact absurd hfailure (TagRule.not_raises hbraces hswitch)

end

open Builtin in
set_option maxRecDepth 4000 in
/-- A match rule without braces, whose switch is in capital letters, does not fail.  An expression
that is never closed is only found when the rule that has it is used. -/
theorem resolve_of_plain_rule : ∃ plain s rules failure,
    TagRule.parseAll ["type=match,pattern=/V(.)/i,group=1,enable=TRUE"] = .ok plain ∧
    resolve ⟨"refs/tags/v1", "860c190", .epoch, "push", "", "main"⟩ .epoch plain = .ok s ∧
    TagRule.parseAll ["a", "value=b,suffix=\x7b\x7btag"] = .ok rules ∧
    resolve ⟨"refs/tags/v1", "860c190", .epoch, "push", "", "main"⟩ .epoch rules =
      .error failure ∧
    ∃ r ∈ rules,
      r.Raises ⟨"refs/tags/v1", "860c190", .epoch, "push", "", "main"⟩ .epoch failure := by
  let event : Context := ⟨"refs/tags/v1", "860c190", .epoch, "push", "", "main"⟩
  have hread : (TagRule.parseAll ["type=match,pattern=/V(.)/i,group=1,enable=TRUE"]).map
      (List.map fun r => r.attributes.entries) =
      .ok [[("pattern", "/V(.)/i"), ("group", "1"), ("enable", "TRUE"), ("value", ""),
        ("priority", "800")]] := by
    decide +kernel
  obtain ⟨plain, hplain, hattributes⟩ := map_eq_ok.1 hread
  have hswitched : ∀ r ∈ plain,
      (∀ pair ∈ r.attributes.entries, containsText opening pair.2.toList = false) ∧
        asciiLowerCase r.enabling.toList ∈ ["true".toList, "false".toList] := by
    intro r hr
    have hentries := List.mem_singleton.1 (hattributes ▸ List.mem_map_of_mem hr)
    rw [TagRule.enabling, Dictionary.get?, hentries]
    decide +kernel
  obtain ⟨s, hs⟩ := (resolve_eq_error hplain event .epoch).2.2 hswitched
  obtain ⟨rules, hrules, hfailure⟩ : ∃ rules,
      TagRule.parseAll ["a", "value=b,suffix=\x7b\x7btag"] = .ok rules ∧
      resolve event .epoch rules = .error (.template "\x7b\x7btag" .unterminatedExpression) :=
    ⟨[⟨.raw "a", 200, .ofEntries [("value", "a"), ("enable", "true"), ("priority", "200")]⟩,
        ⟨.raw "b", 200, .ofEntries [("value", "b"), ("suffix", "\x7b\x7btag"),
          ("enable", "true"), ("priority", "200")]⟩], by cbv, by cbv⟩
  obtain ⟨-, hraises⟩ := (resolve_eq_error hrules event .epoch).1 _ hfailure
  exact ⟨plain, s, rules, _, hplain, hs, hrules, hfailure, hraises⟩

end ImageTags
