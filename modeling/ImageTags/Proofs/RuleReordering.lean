import Mathlib
import ImageTags.Builtin
import ImageTags.Metadata
import ImageTags.Proofs.PriorityOrder
import ImageTags.Proofs.Steps

/-!
# Rules written in another order

The order in which rules are written matters at each priority only.  Rules that are written in
another order, with those of one priority in the same order as before, come out in the same order of
use, and so nothing that a run finds out is different.

The order of use is unique (`TagRule.inPriorityOrder_iff`), so it is enough to see that the rules in
use for one list of directives are in the order of use for the other list, too.

* `TagRule.Reordering` — the same directives in such an order.
* `TagRule.parseAll_of_reordering` — the rules in their order of use are the same.
* **`Metadata.compute_of_reordering`** — so is all that a run finds out.
-/

namespace ImageTags

section

variable [Pattern.Engine]

/-! ## Directives in another order -/

namespace TagRule

/-- The priority of the rule that a directive is read as. -/
def priorityOf? (directive : String) : Option Int :=
  match parse directive with
  | .ok r => some r.priority
  | .error _ => none

lemma priorityOf?_of_parse {directive : String} {r : TagRule} (h : parse directive = .ok r) :
    priorityOf? directive = some r.priority := by
  rw [priorityOf?, h]

/-- The directives `shuffled` are the directives `written` in another order, in which those of one
priority stand as they were written. -/
structure Reordering (written shuffled : List String) : Prop where
  perm : shuffled.Perm written
  ties : ∀ p : Int,
    shuffled.filter (priorityOf? · = some p) = written.filter (priorityOf? · = some p)

/-- The rules of one priority are read from the directives of that priority. -/
lemma mapM_filter_priority {directives : List String} {rules : List TagRule}
    (h : directives.mapM parse = .ok rules) (p : Int) :
    (directives.filter (priorityOf? · = some p)).mapM parse =
      .ok (rules.filter (·.priority = p)) := by
  refine mapM_filter_eq_ok (fun directive _ r hr => ?_) h
  simp [priorityOf?_of_parse hr]

variable {written shuffled : List String}

/-- **Directives in another order have the same order of use.** -/
theorem Reordering.inOrder_eq (h : Reordering written shuffled) {rules : List TagRule}
    (hrules : written.mapM parse = .ok rules) :
    ∃ rules', shuffled.mapM parse = .ok rules' ∧ inOrder rules' = inOrder rules := by
  have hall := exists_mapM_eq_ok_iff.1 ⟨rules, hrules⟩
  have hall' : ∀ directive ∈ shuffled, ∃ r, parse directive = .ok r := by
    intro directive hdirective
    exact hall directive (h.perm.mem_iff.1 hdirective)
  obtain ⟨rules', hrules'⟩ := exists_mapM_eq_ok_iff.2 hall'
  have hties : ∀ p : Int, rules'.filter (·.priority = p) = rules.filter (·.priority = p) := by
    intro p
    have hfilter := mapM_filter_priority hrules' p
    rw [h.ties p, mapM_filter_priority hrules p] at hfilter
    exact (Except.ok.inj hfilter).symm
  -- the rules in use for one list are in the order of use for the other
  have horder := inPriorityOrder_inOrder rules'
  have hused : InPriorityOrder rules (inOrder rules') :=
    ⟨horder.descending, fun p => (horder.ties p).trans (hties p)⟩
  exact ⟨rules', hrules', inPriorityOrder_iff.1 hused⟩

/-- **Directives in another order give the same rules**; without any both give the default ones. -/
theorem parseAll_of_reordering (h : Reordering written shuffled) {rules : List TagRule}
    (hrules : parseAll written = .ok rules) : parseAll shuffled = .ok rules := by
  have hempty : shuffled.isEmpty = written.isEmpty := by
    rw [Bool.eq_iff_iff, List.isEmpty_iff, List.isEmpty_iff]
    exact ⟨fun hnil => (hnil ▸ h.perm).nil_eq.symm, fun hnil => (hnil ▸ h.perm).eq_nil⟩
  obtain ⟨read, hread, horder⟩ := bind_eq_ok.1 hrules
  obtain rfl := Except.ok.inj horder
  rw [parseAll, hempty]
  cases hnil : written.isEmpty with
  | true =>
    rw [hnil] at hread
    simp only [if_true] at hread ⊢
    rw [hread]
    rfl
  | false =>
    simp only [hnil, Bool.false_eq_true, if_false] at hread
    obtain ⟨read', hread', heq⟩ := h.inOrder_eq hread
    simp only [Bool.false_eq_true, if_false]
    rw [hread', ← heq]
    rfl

end TagRule

/-! ## The whole run -/

variable [Calendar.Zones]

/-- **A run finds out the same when its rules are written in another order** that keeps those of one
priority as they were. -/
theorem Metadata.compute_of_reordering {configuration : Configuration} {context : Context}
    {repository : Repository} {now : Calendar.Instant} {metadata : Metadata}
    {shuffled : List String} (hshuffled : TagRule.Reordering configuration.tags shuffled)
    (h : compute configuration context repository now = .ok metadata) :
    (∃ rules, TagRule.parseAll configuration.tags = .ok rules ∧
      TagRule.parseAll shuffled = .ok rules) ∧
    compute { configuration with tags := shuffled } context repository now = .ok metadata := by
  obtain ⟨rules, hrules, hrest⟩ := bind_eq_ok.1 h
  have hsame := TagRule.parseAll_of_reordering hshuffled hrules
  refine ⟨⟨rules, hrules, hsame⟩, ?_⟩
  rw [compute, hsame]
  exact hrest

end

open Builtin in
set_option maxRecDepth 4000 in
/-- A rule that is used last is written between two rules of one priority, and then behind them. -/
theorem Metadata.compute_of_moved_rule : ∃ metadata,
    TagRule.Reordering ["b", "type=sha", "a"] ["b", "a", "type=sha"] ∧
    metadata.version.names = ["b", "a", "sha-860c190"] ∧
    compute ⟨[], ["b", "type=sha", "a"], [], [], "image"⟩
      ⟨"refs/heads/main", "860c190", .epoch, "push", "", "main"⟩ .unknown .epoch = .ok metadata ∧
    compute ⟨[], ["b", "a", "type=sha"], [], [], "image"⟩
      ⟨"refs/heads/main", "860c190", .epoch, "push", "", "main"⟩ .unknown .epoch = .ok metadata := by
  let event : Context := ⟨"refs/heads/main", "860c190", .epoch, "push", "", "main"⟩
  let raw (value : String) : TagRule :=
    ⟨.raw value, 200, .ofEntries [("value", value), ("enable", "true"), ("priority", "200")]⟩
  let sha : TagRule := ⟨.sha .short, 100, .ofEntries
    [("prefix", "sha-"), ("format", "short"), ("enable", "true"), ("priority", "100")]⟩
  have ha : TagRule.parse "a" = .ok (raw "a") := by cbv
  have hb : TagRule.parse "b" = .ok (raw "b") := by cbv
  have hsha : TagRule.parse "type=sha" = .ok sha := by cbv
  have hreordering : TagRule.Reordering ["b", "type=sha", "a"] ["b", "a", "type=sha"] := by
    refine ⟨by decide, fun p => ?_⟩
    have hraw : (raw "a").priority = 200 ∧ (raw "b").priority = 200 ∧ sha.priority = 100 :=
      ⟨rfl, rfl, rfl⟩
    by_cases hp : p = 100
    · simp [TagRule.priorityOf?_of_parse, ha, hb, hsha, hraw, hp]
    · simp [TagRule.priorityOf?_of_parse, ha, hb, hsha, hraw, List.filter_cons, Ne.symm hp]
  have hrules : TagRule.parseAll ["b", "type=sha", "a"] = .ok [raw "b", raw "a", sha] := by
    have hread : ["b", "type=sha", "a"].mapM TagRule.parse = .ok [raw "b", sha, raw "a"] := by
      simp only [mapM_cons_eq_ok, mapM_nil_ok]
      exact ⟨_, hb, _, ⟨_, hsha, _, ⟨_, ha, _, rfl, rfl⟩, rfl⟩, rfl⟩
    rw [TagRule.parseAll, if_neg (by simp), hread]
    cbv
  have hs : resolve event .epoch [raw "b", raw "a", sha] =
      .ok ⟨[⟨"b", none, none⟩, ⟨"a", none, none⟩, ⟨"860c190", some "sha-", none⟩], none⟩ := by cbv
  have hflavor : Flavor.plain.render (Template.eventScope event .epoch) = .ok .plain := by cbv
  have hnames : (Flavor.plain.dress
      ⟨[⟨"b", none, none⟩, ⟨"a", none, none⟩, ⟨"860c190", some "sha-", none⟩], none⟩).names =
      ["b", "a", "sha-860c190"] := by cbv
  obtain ⟨metadata, h, hversion⟩ : ∃ metadata,
      compute ⟨[], ["b", "type=sha", "a"], [], [], "image"⟩ event .unknown .epoch = .ok metadata ∧
      metadata.version = Flavor.plain.dress
        ⟨[⟨"b", none, none⟩, ⟨"a", none, none⟩, ⟨"860c190", some "sha-", none⟩], none⟩ := by
    rw [compute, hrules]
    show ∃ metadata, (Flavor.plain.render _ >>= _) = _ ∧ _
    rw [hflavor]
    show ∃ metadata, (resolve event .epoch _ >>= _) = _ ∧ _
    rw [hs]
    exact ⟨_, rfl, rfl⟩
  refine ⟨metadata, hreordering, ?_, h, (compute_of_reordering hreordering h).2⟩
  rw [hversion, hnames]

end ImageTags
