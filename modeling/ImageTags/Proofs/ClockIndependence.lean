import Mathlib
import ImageTags.Proofs.RuleFailures
import ImageTags.Proofs.RunLabels

/-!
# Runs at different instants

A run depends on the instant at which it is made through the expression `date` and through the label
that tells when the image was created.  If no template of a run has that expression, two runs at
different instants fail alike, or they find out the same but for that label.

A rule has its templates in five attributes and a flavor has them in its two texts, so it is enough
to look at these.  The date of the commit is a fact about the event and does not count.

* `Template.expressions`, `Template.Timeless` — templates that do not ask for the date.
* `Template.render_timeless`, `Rule.value?_timeless`, `TagRule.offer?_timeless`, `resolve_timeless`,
  `Flavor.render_timeless` — what such templates are used in does not depend on the instant.
* `LabelSet.sameBut_overlay` — the labels.
* **`Metadata.compute_timeless`** — the run.
-/

namespace ImageTags

open Template
open Calendar (Instant)

/-! ## Templates -/

namespace Template

/-- The expression that a piece is. -/
def Piece.expression? : Piece → Option Expression
  | literal _ => none
  | expression e => some e

/-- The expressions of a template, up to where it cannot be cut into pieces any further. -/
def expressions (template : String) : List Expression :=
  (segment template.toList).pieces.filterMap Piece.expression?

/-- No expression of a template is the date of the run. -/
def Timeless (template : String) : Prop :=
  ∀ e ∈ expressions template, e.name ≠ "date"

/-- What pieces are rendered to depends on the values of their expressions only. -/
lemma renderPieces_congr {scope scope' : Scope} {pieces : List Piece}
    (h : ∀ e ∈ pieces.filterMap Piece.expression?, scope e = scope' e) :
    renderPieces scope pieces = renderPieces scope' pieces := by
  induction pieces with
  | nil => rfl
  | cons piece pieces ih =>
    cases piece with
    | literal text => rw [renderPieces, renderPieces, ih h]; rfl
    | expression e =>
      obtain ⟨he, hpieces⟩ := List.forall_mem_cons.1 h
      rw [renderPieces, renderPieces, ih hpieces, Piece.render, Piece.render, he]

/-- **What a template is rendered to depends on the values of its expressions only.** -/
theorem render_congr {scope scope' : Scope} {template : String}
    (h : ∀ e ∈ expressions template, scope e = scope' e) :
    render scope template = render scope' template := by
  rw [render, render, Segmentation.render, Segmentation.render, renderPieces_congr h]

/-- A text without opening braces has no expression. -/
lemma timeless_of_plain {template : String}
    (h : Text.containsText opening template.toList = false) : Timeless template := by
  intro e he
  rw [expressions, segment_of_plain h] at he
  exact absurd he List.not_mem_nil

section

variable [Calendar.Zones]

/-- Of the facts about an event only the date of the run depends on the instant of the run. -/
lemma eventScope_of_name_ne {e : Expression} (h : e.name ≠ "date") (context : Context)
    (now now' : Instant) : eventScope context now e = eventScope context now' e := by
  unfold eventScope
  split
  case h_6 hdate => exact absurd hdate h
  all_goals rfl

/-- A template without the date of the run is rendered to the same at all instants. -/
theorem render_timeless {template : String} (h : Timeless template) (context : Context)
    (now now' : Instant) :
    render (eventScope context now) template = render (eventScope context now') template :=
  render_congr fun e he => eventScope_of_name_ne (h e he) context now now'

end

end Template

/-! ## Flavors and labels -/

/-- No text of a flavor asks for the date of the run. -/
structure Flavor.Timeless (f : Flavor) : Prop where
  front : Template.Timeless f.front
  back : Template.Timeless f.back

/-- The standard labels of two instants differ in the one that tells when the image was created. -/
lemma LabelSet.sameBut_standard (repository : Repository) (version : Option String)
    (revision : String) (now now' : Instant) (start : Option String) :
    Dictionary.SameBut (start.getD "" ++ "org.opencontainers.image.created")
      (standard repository version revision now start)
      (standard repository version revision now' start) where
  keys := by rw [keys_standard, keys_standard]
  values key hkey := by
    have hother : (key == start.getD "" ++ "org.opencontainers.image.created") = false :=
      beq_false_of_ne hkey
    rw [Dictionary.get?, Dictionary.get?, entries_standard, entries_standard]
    simp only [standardTable, List.lookup_cons, hother]

/-- Laying the same labels over them makes no other difference. -/
lemma LabelSet.sameBut_overlay (repository : Repository) (version : Option String)
    (revision : String) (now now' : Instant) (start : Option String) (entries : List String) :
    Dictionary.SameBut (start.getD "" ++ "org.opencontainers.image.created")
      ((standard repository version revision now start).overlay entries)
      ((standard repository version revision now' start).overlay entries) := by
  rw [overlay_eq, overlay_eq]
  exact (sameBut_standard ..).insertAll _

/-! ## Rules -/

/-- The attributes of a rule that are rendered. -/
def TagRule.templateKeys : List String := ["enable", "pattern", "value", "prefix", "suffix"]

section

variable [Pattern.Engine]

/-- No template of a rule asks for the date of the run. -/
def TagRule.Timeless (r : TagRule) : Prop :=
  ∀ key ∈ templateKeys, ∀ text, r.attributes.get? key = some text → Template.Timeless text

/-- It is enough to look at all attributes of a rule. -/
lemma TagRule.timeless_of_entries {r : TagRule}
    (h : ∀ pair ∈ r.attributes.entries, Template.Timeless pair.2) : r.Timeless :=
  fun _ _ _ hget => h _ (Dictionary.mem_entries_of_get? hget)

variable [Calendar.Zones]

omit [Pattern.Engine] in
lemma versionSource?_timeless {value : String} (h : Timeless value) (context : Context)
    (now now' : Instant) :
    versionSource? context now value = versionSource? context now' value := by
  rw [versionSource?, versionSource?, render_timeless h context now now']

/-- The value of a rule does not depend on the instant if its pattern and its own value do not. -/
theorem Rule.value?_timeless {rule : Rule}
    (hpattern : ∀ pattern, ("pattern", pattern) ∈ rule.texts → Timeless pattern)
    (hvalue : ∀ value, ("value", value) ∈ rule.texts → Timeless value)
    (context : Context) (now now' : Instant) :
    rule.value? context now = rule.value? context now' := by
  cases rule with
  | schedule pattern =>
    have htimeless : Timeless pattern := hpattern pattern (by simp [texts])
    rw [value?, value?, render_timeless htimeless context now now']
  | version dialect pattern value =>
    -- the pattern is rendered with the parts of the version, not with the event
    have htimeless : Timeless value := hvalue value (by simp [texts])
    rw [value?, value?, versionSource?_timeless htimeless context now now']
  | matching matcher group value =>
    have htimeless : Timeless value := hvalue value (by simp [texts])
    rw [value?, value?, versionSource?_timeless htimeless context now now']
  | edge branch => rfl
  | ref event => rfl
  | raw value =>
    have htimeless : Timeless value := hvalue value (by simp [texts])
    rw [value?, value?, render_timeless htimeless context now now']
  | sha format => rfl

namespace TagRule

variable {r : TagRule} (h : r.Timeless) (context : Context) (now now' : Instant)
include h

lemma isEnabled_timeless : r.isEnabled context now = r.isEnabled context now' := by
  have henabling : Template.Timeless r.enabling := by
    rw [enabling]
    cases hget : r.attributes.get? "enable" with
    | some text => exact h "enable" (by decide) text hget
    | none => exact timeless_of_plain (by decide)
  rw [isEnabled, isEnabled, render_timeless henabling context now now']

lemma affix?_timeless {name : String} (hname : name ∈ templateKeys) :
    r.affix? context now name = r.affix? context now' name := by
  rw [affix?, affix?]
  cases hget : r.attributes.get? name with
  | none => rfl
  | some text =>
    show (render _ text).map some = (render _ text).map some
    rw [render_timeless (h name hname text hget) context now now']

/-- **What a rule offers does not depend on the instant** if no template of it does. -/
theorem offer?_timeless (hr : r.Settled) : r.offer? context now = r.offer? context now' := by
  have hget : ∀ pair ∈ r.rule.texts, r.attributes.get? pair.1 = some pair.2 :=
    Rule.get?_of_mem_texts (hr.rule "")
  have hvalue : r.rule.value? context now = r.rule.value? context now' :=
    Rule.value?_timeless (fun _ hmem => h "pattern" (by decide) _ (hget _ hmem))
      (fun _ hmem => h "value" (by decide) _ (hget _ hmem)) context now now'
  rw [offer?, offer?, isEnabled_timeless h context now now', hvalue,
    affix?_timeless h context now now' (by decide : "prefix" ∈ templateKeys),
    affix?_timeless h context now now' (by decide : "suffix" ∈ templateKeys)]

end TagRule

/-- The selection of rules that were read does not depend on the instant if no template does. -/
theorem resolve_timeless {directives : List String} {rules : List TagRule}
    (hrules : TagRule.parseAll directives = .ok rules) (h : ∀ r ∈ rules, r.Timeless)
    (context : Context) (now now' : Instant) :
    resolve context now rules = resolve context now' rules := by
  have hoffers : ∀ r ∈ rules, r.offer? context now = r.offer? context now' := by
    intro r hr
    obtain ⟨directive, -, hparse⟩ := (TagRule.of_parseAll hrules).2.2 r hr
    exact TagRule.offer?_timeless (h r hr) context now now' (TagRule.settled_of_parse hparse)
  rw [resolve, resolve, mapM_congr hoffers]

/-! ## The run -/

omit [Pattern.Engine] in
lemma Flavor.render_timeless {f : Flavor} (h : f.Timeless) (context : Context)
    (now now' : Instant) :
    f.render (eventScope context now) = f.render (eventScope context now') := by
  rw [render, render, Template.render_timeless h.front context now now',
    Template.render_timeless h.back context now now']

/-- **Two runs at different instants.**  If no template of the rules and of the flavor asks for the
date of the run, both fail with the same failure, or both succeed with the same version and the same
tags.  They have labels with the same keys in the same order, and with the same values but for the
label that tells when the image was created. -/
theorem Metadata.compute_timeless {configuration : Configuration}
    (hrules : ∀ rules, TagRule.parseAll configuration.tags = .ok rules → ∀ r ∈ rules, r.Timeless)
    (hflavor : ∀ written, Flavor.parse configuration.flavor = .ok written → written.Timeless)
    (context : Context) (repository : Repository) (now now' : Instant) :
    Alike (fun m m' : Metadata => m.version = m'.version ∧ m.tags = m'.tags ∧
        ∃ written, Flavor.parse configuration.flavor = .ok written ∧
          Dictionary.SameBut (written.labelStart.getD "" ++ "org.opencontainers.image.created")
            m.labels m'.labels)
      (compute configuration context repository now)
      (compute configuration context repository now') := by
  refine .bind fun rules hparsed => .bind fun written hwritten => ?_
  rw [Flavor.render_timeless (hflavor written hwritten) context now now']
  refine .bind fun f hf => .bind fun images _ => ?_
  rw [resolve_timeless hparsed (hrules rules hparsed) context now now']
  refine .bind fun s _ => .ok ⟨rfl, by rw [tags, tags], written, hwritten, ?_⟩
  rw [← Flavor.labelStart_render hf]
  exact LabelSet.sameBut_overlay ..

end

open Builtin in
set_option maxRecDepth 4000 in
/-- Two runs a day apart with the date of the commit in a rule, and with the word for the date of
the run where it is no expression: they have the same tag. -/
theorem Metadata.compute_of_commit_date : ∃ m m' : Metadata,
    compute ⟨[], ["\x7b\x7bcommit_date 'YYYY'\x7d\x7d-date"], ["suffix=-\x7b\x7bsha\x7d\x7d"], [],
        "image"⟩
      ⟨"refs/heads/main", "860c190", .epoch, "push", "", "main"⟩ .unknown .epoch = .ok m ∧
    compute ⟨[], ["\x7b\x7bcommit_date 'YYYY'\x7d\x7d-date"], ["suffix=-\x7b\x7bsha\x7d\x7d"], [],
        "image"⟩
      ⟨"refs/heads/main", "860c190", .epoch, "push", "", "main"⟩ .unknown ⟨86400, 0⟩ = .ok m' ∧
    m.version.names = ["1970-date-860c190"] ∧ m'.version.names = m.version.names ∧
    Dictionary.SameBut "org.opencontainers.image.created" m.labels m'.labels := by
  let event : Context := ⟨"refs/heads/main", "860c190", .epoch, "push", "", "main"⟩
  let configuration : Configuration :=
    ⟨[], ["\x7b\x7bcommit_date 'YYYY'\x7d\x7d-date"], ["suffix=-\x7b\x7bsha\x7d\x7d"], [], "image"⟩
  have hparsed : TagRule.parseAll ["\x7b\x7bcommit_date 'YYYY'\x7d\x7d-date"] =
      .ok [⟨.raw "\x7b\x7bcommit_date 'YYYY'\x7d\x7d-date", 200,
        .ofEntries [("value", "\x7b\x7bcommit_date 'YYYY'\x7d\x7d-date"), ("enable", "true"),
          ("priority", "200")]⟩] := by cbv
  have hwritten : Flavor.parse ["suffix=-\x7b\x7bsha\x7d\x7d"] =
      .ok ⟨.auto, "", "-\x7b\x7bsha\x7d\x7d", false, false, none⟩ := by cbv
  have hrules : ∀ rules, TagRule.parseAll configuration.tags = .ok rules →
      ∀ r ∈ rules, r.Timeless := by
    intro rules h r hr
    obtain rfl := Except.ok.inj (hparsed.symm.trans h)
    obtain rfl := List.mem_singleton.1 hr
    have hvalue : expressions "\x7b\x7bcommit_date 'YYYY'\x7d\x7d-date" =
        [⟨"commit_date", ["YYYY"], []⟩] := by cbv
    refine TagRule.timeless_of_entries ?_
    show ∀ pair ∈ [("value", "\x7b\x7bcommit_date 'YYYY'\x7d\x7d-date"), ("enable", "true"),
      ("priority", "200")], Template.Timeless pair.2
    simp only [List.forall_mem_cons]
    exact ⟨by simp [Template.Timeless, hvalue], timeless_of_plain (by decide),
      timeless_of_plain (by decide), fun _ h => absurd h List.not_mem_nil⟩
  have hflavor : ∀ written, Flavor.parse configuration.flavor = .ok written →
      written.Timeless := by
    intro written h
    obtain rfl := Except.ok.inj (hwritten.symm.trans h)
    have hsuffix : expressions "-\x7b\x7bsha\x7d\x7d" = [⟨"sha", [], []⟩] := by cbv
    exact ⟨timeless_of_plain (by decide), by simp [Template.Timeless, hsuffix]⟩
  have hrendered : Flavor.render (eventScope event .epoch)
      ⟨.auto, "", "-\x7b\x7bsha\x7d\x7d", false, false, none⟩ =
      .ok ⟨.auto, "", "-860c190", false, false, none⟩ := by cbv
  obtain ⟨m, hm, hversion⟩ := exists_compute_of_dress configuration .unknown hparsed hwritten
    hrendered (s := ⟨[⟨"1970-date", none, none⟩], none⟩) (by cbv) (by cbv)
  have halike := compute_timeless hrules hflavor event .unknown .epoch ⟨86400, 0⟩
  rw [hm] at halike
  obtain ⟨m', hm', hsame, -, written, hwritten', hlabels⟩ := halike.exists_ok
  obtain rfl := Except.ok.inj (hwritten.symm.trans hwritten')
  exact ⟨m, m', hm, hm', hversion ▸ rfl, by rw [hsame], hlabels⟩

end ImageTags
