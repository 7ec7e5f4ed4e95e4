import Mathlib
import ImageTags.Builtin
import ImageTags.Proofs.Offers
import ImageTags.Proofs.PriorityOrder
import ImageTags.Proofs.Steps
import ImageTags.Resolve

/-!
# The names of the tags of a run

From the directives to the names of the tags a run goes through four stages: the rules are put into
the order of their use, each makes an offer, the offers are collected in a selection, and the
selection is dressed by a flavor.  Two of the stages drop what has been there already, at different
levels: the selection drops candidates, the dressing drops names.

Seen from outside the stages vanish.  The rules that are *kept* are those that are switched on and
have a value; each gives one text, and the names are these texts and the tag `latest`, each once.

* `keptRules` — the rules that are kept, with their values.
* `TagRule.tagText` — the text for one of them.
* **`names_of_run`** — the names of the tags, and when `latest` is among what is asked for.
-/

namespace ImageTags

open Calendar (Instant)

variable {context : Context} {now : Instant}

/-! ## From offers to names -/

/-- Dressing gives each name once, where it first came. -/
lemma Flavor.names_dress (f : Flavor) (s : Selection) :
    (f.dress s).names = (s.candidates.map f.compose ++
      if (f.dress s).latest then [f.latestTag] else []).eraseDups := by
  rw [dress]
  cases hc : s.candidates with
  | nil => rfl
  | cons main others =>
    have hone : [f.compose main] = [f.compose main].eraseDups := by simp [List.eraseDups_cons]
    dsimp only
    rw [hone, ImageVersion.foldl_addName]
    simp

lemma Flavor.latest_dress (f : Flavor) (s : Selection) :
    (f.dress s).latest = true ↔
      s.candidates ≠ [] ∧ (f.latest = .always ∨ f.latest = .auto ∧ s.latest = some true) := by
  rw [dress]
  cases hc : s.candidates with
  | nil => simp [ImageVersion.none]
  | cons main others => cases hl : f.latest <;> simp [marksLatest, hl, Selection.isLatest]

/-- The names after a run of offers are those of all candidates that count: a candidate that the
selection dropped would have given a name that is there. -/
lemma Flavor.names_dress_ofOffers (f : Flavor) (offers : List Offer) :
    (f.dress (.ofOffers offers)).names =
      ((Offer.countingCandidates offers).map f.compose ++
        if (f.dress (.ofOffers offers)).latest then [f.latestTag] else []).eraseDups := by
  rw [names_dress, Selection.candidates_ofOffers]
  cases Offer.countingCandidates offers with
  | nil => rfl
  | cons main later => exact ImageVersion.eraseDups_cons_map_filter f.compose main later _

/-- There are candidates if an offer counts. -/
lemma Selection.candidates_ofOffers_eq_nil {offers : List Offer} :
    (ofOffers offers).candidates = [] ↔ Offer.countingCandidates offers = [] := by
  rw [candidates_ofOffers]
  split
  · next h => simp [h]
  · next h => simp [h]

section

variable [Calendar.Zones] [Pattern.Engine]

/-! ## Rules that are kept -/

/-- The value with which a rule is kept: the rule is switched on and its value is not empty. -/
def TagRule.kept? (context : Context) (now : Instant) (r : TagRule) : Option RuleValue :=
  match r.isEnabled context now, r.rule.value? context now with
  | .ok true, .ok (some found) => if found.value = "" then none else some found
  | _, _ => none

/-- The rules that are kept, each with its value. -/
def keptRules (context : Context) (now : Instant) (rules : List TagRule) :
    List (TagRule × RuleValue) :=
  rules.filterMap fun r => (r.kept? context now).map fun found => (r, found)

/-- The text at one side of a tag: the rule's own attribute, rendered, and without one what is
common to all tags. -/
def TagRule.sideText (context : Context) (now : Instant) (r : TagRule) (name common : String) :
    Except Failure String :=
  match r.attributes.get? name with
  | some template => Template.render (Template.eventScope context now) template
  | none => .ok common

/-- The text of the tag for a rule that is kept with a value. -/
def TagRule.tagText (context : Context) (now : Instant) (f : Flavor) (r : TagRule)
    (found : RuleValue) : Except Failure String := do
  let front ← r.sideText context now "prefix" f.front
  let back ← r.sideText context now "suffix" f.back
  .ok (front ++ found.value ++ back)

/-! ## From rules to offers -/

/-- An affix that a rule offers is the text at that side, whatever is common to all tags. -/
lemma TagRule.sideText_of_affix? {r : TagRule} {name : String} {text : Option String}
    (h : r.affix? context now name = .ok text) (common : String) :
    r.sideText context now name common = .ok (text.getD common) := by
  rw [affix?] at h
  rw [sideText]
  cases hattr : r.attributes.get? name with
  | none =>
    rw [hattr] at h
    obtain rfl := Except.ok.inj h
    rfl
  | some template =>
    rw [hattr] at h
    obtain ⟨t, ht, rfl⟩ := map_eq_ok.1 h
    exact ht

/-- **What one rule offers.**  A rule that is kept offers its value, with the texts around it that
its tag will have; a rule that is not kept makes no offer that counts. -/
theorem TagRule.offer?_eq_ok {r : TagRule} {o : Option Offer}
    (h : r.offer? context now = .ok o) :
    (∃ found, r.kept? context now = some found ∧
      ∃ c, o = some ⟨c, found.latest⟩ ∧ c.value ≠ "" ∧
        ∀ f, r.tagText context now f found = .ok (f.compose c)) ∨
    (r.kept? context now = none ∧ ∀ o', o = some o' → o'.counts = false) := by
  obtain ⟨enabled, henabled, h⟩ := bind_eq_ok.1 h
  cases enabled with
  | false =>
    obtain rfl := Except.ok.inj h
    exact Or.inr ⟨by simp [kept?, henabled], by simp⟩
  | true =>
    obtain ⟨value, hvalue, h⟩ := bind_eq_ok.1 h
    cases value with
    | none =>
      obtain rfl := Except.ok.inj h
      exact Or.inr ⟨by simp [kept?, henabled, hvalue], by simp⟩
    | some found =>
      obtain ⟨front, hfront, h⟩ := bind_eq_ok.1 h
      obtain ⟨back, hback, h⟩ := bind_eq_ok.1 h
      obtain rfl := Except.ok.inj h
      by_cases hempty : found.value = ""
      · right
        refine ⟨by simp [kept?, henabled, hvalue, hempty], ?_⟩
        rintro o' ho'
        obtain rfl := Option.some.inj ho'
        simp [Offer.counts, hempty]
      · left
        refine ⟨found, by simp [kept?, henabled, hvalue, hempty], _, rfl, hempty, fun f => ?_⟩
        rw [tagText, sideText_of_affix? hfront, sideText_of_affix? hback]
        rfl

/-- **What all rules offer**: the offers that count are those of the rules that are kept, in the
same order. -/
theorem counting_offers {rules : List TagRule} {offers : List (Option Offer)}
    (h : rules.mapM (TagRule.offer? context now) = .ok offers) :
    ((offers.filterMap id).filter Offer.counts).map Offer.latest =
      (keptRules context now rules).map (·.2.latest) ∧
    ∀ f : Flavor, (keptRules context now rules).mapM
        (fun kept => kept.1.tagText context now f kept.2) =
      .ok ((Offer.countingCandidates (offers.filterMap id)).map f.compose) := by
  induction rules generalizing offers with
  | nil =>
    obtain rfl := Except.ok.inj h
    exact ⟨rfl, fun f => rfl⟩
  | cons r rules ih =>
    obtain ⟨o, ho, offers, hoffers, rfl⟩ := mapM_cons_eq_ok.1 h
    obtain ⟨hlatest, htexts⟩ := ih hoffers
    rcases TagRule.offer?_eq_ok ho with ⟨found, hkept, c, rfl, hc, htext⟩ | ⟨hkept, hcounts⟩
    · have hcons : keptRules context now (r :: rules) =
          (r, found) :: keptRules context now rules := by
        simp [keptRules, hkept]
      refine ⟨by simp [hcons, Offer.counts, hc, ← hlatest], fun f => ?_⟩
      rw [hcons, mapM_cons_eq_ok]
      exact ⟨f.compose c, htext f, _, htexts f, by
        simp [Offer.countingCandidates, Offer.counts, hc]⟩
    · have hsame : keptRules context now (r :: rules) = keptRules context now rules := by
        simp [keptRules, hkept]
      rw [hsame]
      have hdropped : ((o :: offers).filterMap id).filter Offer.counts =
          (offers.filterMap id).filter Offer.counts := by
        cases o with
        | none => rfl
        | some o => simp [hcounts o rfl]
      rw [Offer.countingCandidates, hdropped]
      exact ⟨hlatest, htexts⟩

/-! ## The whole run -/

/-- **The names of the tags of a run.**  The rules are those that were written (or the default
ones), in the order of use.  Each rule that is kept gives one text; the names are these texts, and
the tag `latest` behind them if it is asked for, each where it first comes.  It is asked for if some
rule is kept and the flavor always wants it, or the flavor leaves it to the rules and the first
opinion among those that are kept is in favor. -/
theorem names_of_run {directives : List String} {rules : List TagRule} {s : Selection}
    (hrules : TagRule.parseAll directives = .ok rules) (hs : resolve context now rules = .ok s)
    (f : Flavor) :
    ∃ written texts,
      (if directives = [] then TagRule.defaultRules else directives).mapM TagRule.parse =
        .ok written ∧
      TagRule.InPriorityOrder written rules ∧
      (keptRules context now rules).mapM (fun kept => kept.1.tagText context now f kept.2) =
        .ok texts ∧
      (f.dress s).names =
        (texts ++ if (f.dress s).latest then [f.latestTag] else []).eraseDups ∧
      ((f.dress s).latest = true ↔ keptRules context now rules ≠ [] ∧
        (f.latest = .always ∨ f.latest = .auto ∧
          (keptRules context now rules).findSome? (·.2.latest) = some true)) ∧
      (keptRules context now rules = [] → (f.dress s).names = []) := by
  obtain ⟨written, hwritten, horder⟩ := bind_eq_ok.1 hrules
  obtain ⟨offers, hoffers, hselection⟩ := bind_eq_ok.1 hs
  obtain rfl := Except.ok.inj hselection
  obtain ⟨hlatest, htexts⟩ := counting_offers hoffers
  have hopinion : (Selection.ofOffers (offers.filterMap id)).latest =
      (keptRules context now rules).findSome? (·.2.latest) := by
    rw [Selection.latest_ofOffers, ← Function.id_comp Offer.latest, ← List.findSome?_map, hlatest,
      List.findSome?_map]
    rfl
  have hnone : Offer.countingCandidates (offers.filterMap id) = [] ↔
      keptRules context now rules = [] := by
    have hlength := congrArg List.length hlatest
    simp only [List.length_map] at hlength
    rw [Offer.countingCandidates, List.map_eq_nil_iff, ← List.length_eq_zero_iff, hlength,
      List.length_eq_zero_iff]
  have hdress := Flavor.latest_dress f (.ofOffers (offers.filterMap id))
  rw [Ne, Selection.candidates_ofOffers_eq_nil, hnone, hopinion] at hdress
  have hnames := Flavor.names_dress_ofOffers f (offers.filterMap id)
  refine ⟨written, _, ?_, ?_, htexts f, hnames, hdress, fun hkept => ?_⟩
  · simpa [List.isEmpty_iff] using hwritten
  · exact TagRule.inPriorityOrder_iff.2 (Except.ok.inj horder).symm
  · have hlate : (f.dress (.ofOffers (offers.filterMap id))).latest = false := by
      rw [← Bool.not_eq_true, hdress]
      exact fun h => h.1 hkept
    rw [hnames, hnone.2 hkept, hlate]
    rfl

end

open Builtin in
set_option maxRecDepth 4000 in
/-- A rule reads the pushed tag as a version, and a raw rule gives the same text: it is used last
and adds no name. -/
theorem names_of_release_run :
    ∃ rules s,
      TagRule.parseAll ["type=raw,value=1.2.3", "type=semver,pattern=\x7b\x7bversion\x7d\x7d",
        "type=sha,enable=false"] = .ok rules ∧
      resolve ⟨"refs/tags/1.2.3", "860c190", .epoch, "push", "", "main"⟩ .epoch rules = .ok s ∧
      (Flavor.dress ⟨.auto, "v", "", false, false, none⟩ s).names = ["v1.2.3", "latest"] := by
  let f : Flavor := ⟨.auto, "v", "", false, false, none⟩
  let event : Context := ⟨"refs/tags/1.2.3", "860c190", .epoch, "push", "", "main"⟩
  obtain ⟨rules, s, hrules, hs, hkept, hlatest⟩ : ∃ rules s,
      TagRule.parseAll ["type=raw,value=1.2.3", "type=semver,pattern=\x7b\x7bversion\x7d\x7d",
        "type=sha,enable=false"] = .ok rules ∧
      resolve event .epoch rules = .ok s ∧
      (keptRules event .epoch rules).mapM (fun kept => kept.1.tagText event .epoch f kept.2) =
        .ok ["v1.2.3", "v1.2.3"] ∧
      (f.dress s).latest = true :=
    ⟨[⟨.version .semver "\x7b\x7bversion\x7d\x7d" "", 900, .ofEntries
          [("pattern", "\x7b\x7bversion\x7d\x7d"), ("value", ""), ("enable", "true"),
            ("priority", "900")]⟩,
        ⟨.raw "1.2.3", 200, .ofEntries
          [("value", "1.2.3"), ("enable", "true"), ("priority", "200")]⟩,
        ⟨.sha .short, 100, .ofEntries
          [("enable", "false"), ("prefix", "sha-"), ("format", "short"), ("priority", "100")]⟩],
      ⟨[⟨"1.2.3", none, none⟩], some true⟩, by cbv, by cbv, by cbv, by cbv⟩
  obtain ⟨-, texts, -, -, htexts, hnames, -⟩ := names_of_run hrules hs f
  obtain rfl := Except.ok.inj (htexts.symm.trans hkept)
  refine ⟨rules, s, hrules, hs, ?_⟩
  rw [hnames, hlatest]
  cbv

end ImageTags
