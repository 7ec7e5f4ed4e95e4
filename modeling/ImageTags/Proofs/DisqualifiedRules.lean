import Mathlib
import ImageTags.Proofs.RuleFailures

/-!
# Match rules that come to nothing

A match rule is disqualified if its pattern does not match its source, or if the group that it asks
for takes no part in the match or matches the empty text.  Such a rule should be as good as not
there: what the other rules offer, and which of their opinions stands, is the same without it.

That is so wherever the rule makes no offer, and wherever its offer does not count.  An empty group
is only dropped after the offer was made, and for that the texts at the sides of the value have been
rendered.  If one of them is malformed the run fails over a rule that would have given nothing.

* `resolve_of_silent`, `resolve_of_failing` — a rule that offers nothing, and one that fails.
* `TagRule.Disqualified`, `TagRule.Spoils` — how a match rule comes to nothing, and how it still
  does harm.
* **`resolve_without_disqualified`** — a run with such a rule and the run without it.
-/

namespace ImageTags

open Text Template
open Calendar (Instant)

section

variable [Calendar.Zones] [Pattern.Engine] {context : Context} {now : Instant} {r : TagRule}

/-! ## One rule of a run -/

/-- A run goes through the rules in front of a rule, through that rule, and through those behind. -/
lemma resolve_append_cons (before after : List TagRule) (r : TagRule) :
    resolve context now (before ++ r :: after) = (do
      let offers ← before.mapM (TagRule.offer? context now)
      let o ← r.offer? context now
      let others ← after.mapM (TagRule.offer? context now)
      .ok (.ofOffers ((offers ++ o :: others).filterMap id))) := by
  rw [resolve, List.mapM_append, List.mapM_cons]
  simp only [bind_assoc, pure_bind]

/-- A rule whose offer does not count, if it makes one, can be left out. -/
theorem resolve_of_silent {o : Option Offer} (ho : r.offer? context now = .ok o)
    (hsilent : ∀ o', o = some o' → o'.counts = false) (before after : List TagRule) :
    resolve context now (before ++ r :: after) = resolve context now (before ++ after) := by
  rw [resolve_append_cons, ho, resolve, List.mapM_append]
  simp only [bind_assoc, pure_bind]
  refine bind_congr fun offers => ?_
  show (after.mapM (TagRule.offer? context now) >>= fun others => _) = _
  refine bind_congr fun others => congrArg Except.ok ?_
  cases o with
  | none => simp
  | some o =>
    simp only [List.filterMap_append, List.filterMap_cons, id_eq]
    exact Selection.ofOffers_of_not_counts (hsilent o rfl) _ _

/-- A rule that fails makes the run fail, unless one in front of it does. -/
theorem resolve_of_failing {failure : Failure} (h : r.offer? context now = .error failure)
    (before after : List TagRule) :
    resolve context now (before ++ r :: after) = (do
      let _ ← resolve context now before
      .error failure) := by
  rw [resolve_append_cons, h, resolve]
  simp only [bind_assoc]
  rfl

/-! ## Disqualified rules -/

namespace TagRule

/-- The pattern, the group and the value that a match rule was given. -/
def matching? (r : TagRule) : Option (String × Nat × String) :=
  match r.rule with
  | .matching matcher group value => some (matcher.pattern, group, value)
  | _ => none

/-- What the pattern of a match rule, which asks for a group, finds in the rule's source: what each
group matched, or nothing if the pattern does not match. -/
def Finds (context : Context) (now : Instant) (r : TagRule) (group : Nat)
    (found : Option (List (Option String))) : Prop :=
  ∃ matcher value source, r.rule = .matching matcher group value ∧
    versionSource? context now value = .ok (some source) ∧
      Pattern.Engine.match? matcher.program source = found

/-- Whether the group that a match rule asks for matches the empty text. -/
def CapturesEmpty (context : Context) (now : Instant) (r : TagRule) : Prop :=
  ∃ group groups, r.Finds context now group (some groups) ∧ groups[group]? = some (some "")

/-- Whether a rule is a match rule that comes to nothing. -/
inductive Disqualified (context : Context) (now : Instant) (r : TagRule) : Prop
  | unmatched {group : Nat} (h : r.Finds context now group none)
  | absent {group : Nat} {groups : List (Option String)}
      (h : r.Finds context now group (some groups))
      (hgroup : ∀ part, groups[group]? ≠ some (some part))
  | empty (h : r.CapturesEmpty context now)

/-- The failure over the texts at the sides of a rule's value.  The one in front is rendered
first. -/
inductive SideFault (context : Context) (now : Instant) (r : TagRule) : Failure → Prop
  | front {text : String} {failure : Failure} (hattribute : r.attributes.get? "prefix" = some text)
      (hrender : render (eventScope context now) text = .error failure) :
      SideFault context now r failure
  | back {text : String} {failure : Failure}
      (hfront : ∀ front, r.attributes.get? "prefix" = some front →
        ∃ rendered, render (eventScope context now) front = .ok rendered)
      (hattribute : r.attributes.get? "suffix" = some text)
      (hrender : render (eventScope context now) text = .error failure) :
      SideFault context now r failure

/-- The failure that a match rule raises over the sides of an empty value. -/
def Spoils (context : Context) (now : Instant) (r : TagRule) (failure : Failure) : Prop :=
  r.CapturesEmpty context now ∧ r.SideFault context now failure

/-- The value of a match rule is what its group matched. -/
lemma Finds.value? {group : Nat} {found : Option (List (Option String))}
    (h : r.Finds context now group found) : r.rule.value? context now =
      .ok ((found.bind fun groups => groups[group]?.join).map fun part => ⟨part, some true⟩) := by
  obtain ⟨matcher, value, source, hrule, hsource, rfl⟩ := h
  rw [hrule, Rule.value?, hsource]
  rfl

/-- The pattern of a match rule finds what it finds when it is compiled again. -/
lemma finds_of_matching? {pattern value source : String} {group : Nat}
    {found : Option (List (Option String))} (h : r.matching? = some (pattern, group, value))
    (hsource : versionSource? context now value = .ok (some source))
    (hfound : (Pattern.compile pattern).map (Pattern.Engine.match? · source) = .ok found) :
    r.Finds context now group found := by
  rw [matching?] at h
  split at h
  · next matcher group' value' hrule =>
    obtain ⟨rfl, rfl, rfl⟩ := by simpa using h
    rw [matcher.compiled] at hfound
    exact ⟨matcher, _, source, hrule, hsource, Except.ok.inj hfound⟩
  · simp at h

lemma CapturesEmpty.value? (h : r.CapturesEmpty context now) :
    r.rule.value? context now = .ok (some ⟨"", some true⟩) := by
  obtain ⟨group, groups, hfinds, hgroup⟩ := h
  rw [hfinds.value?, Option.bind_some, hgroup]
  rfl

/-- A rule without a value makes no offer. -/
lemma offer?_of_none (henabled : r.isEnabled context now = .ok true)
    (hvalue : r.rule.value? context now = .ok none) : r.offer? context now = .ok none := by
  rw [offer?, henabled, hvalue]
  rfl

/-- A text at a side is only rendered if the rule has it. -/
lemma exists_affix?_iff {name : String} :
    (∃ text, r.affix? context now name = .ok text) ↔
      ∀ text, r.attributes.get? name = some text →
        ∃ rendered, render (eventScope context now) text = .ok rendered := by
  rw [affix?]
  cases r.attributes.get? name with
  | none => simp
  | some text => simp [map_eq_ok]

/-- A rule with a value fails over the sides of the value. -/
lemma SideFault.offer? {failure : Failure} {found : RuleValue}
    (henabled : r.isEnabled context now = .ok true)
    (hvalue : r.rule.value? context now = .ok (some found))
    (h : r.SideFault context now failure) : r.offer? context now = .error failure := by
  rw [TagRule.offer?, henabled, hvalue]
  cases h with
  | front hattribute hrender =>
    rw [affix?_eq_error_iff.2 ⟨_, hattribute, hrender⟩]
    rfl
  | back hfront hattribute hrender =>
    obtain ⟨front, hfront⟩ := exists_affix?_iff.2 hfront
    rw [hfront, affix?_eq_error_iff.2 ⟨_, hattribute, hrender⟩]
    rfl

/-- A rule with a value offers it, unless it fails over the sides of the value. -/
lemma exists_offer?_of_not_sideFault {found : RuleValue}
    (henabled : r.isEnabled context now = .ok true)
    (hvalue : r.rule.value? context now = .ok (some found))
    (h : ∀ failure, ¬ r.SideFault context now failure) :
    ∃ front back,
      r.offer? context now = .ok (some ⟨⟨found.value, front, back⟩, found.latest⟩) := by
  rw [offer?, henabled, hvalue]
  cases hfront : r.affix? context now "prefix" with
  | error failure =>
    obtain ⟨text, hattribute, hrender⟩ := affix?_eq_error_iff.1 hfront
    exact absurd (.front hattribute hrender) (h failure)
  | ok front =>
    cases hback : r.affix? context now "suffix" with
    | error failure =>
      obtain ⟨text, hattribute, hrender⟩ := affix?_eq_error_iff.1 hback
      exact absurd (.back (exists_affix?_iff.1 ⟨front, hfront⟩) hattribute hrender) (h failure)
    | ok back => exact ⟨front, back, rfl⟩

/-- A match rule that comes to nothing and does no harm makes no offer that counts. -/
lemma Disqualified.offer? (henabled : r.isEnabled context now = .ok true)
    (h : r.Disqualified context now) (hspoils : ∀ failure, ¬ r.Spoils context now failure) :
    ∃ o, r.offer? context now = .ok o ∧ ∀ o', o = some o' → o'.counts = false := by
  cases h with
  | unmatched h => exact ⟨none, offer?_of_none henabled h.value?, by simp⟩
  | @absent group groups h hgroup =>
    have hnone : groups[group]?.join = none := by
      rw [Option.eq_none_iff_forall_ne_some]
      intro part hpart
      exact hgroup part (Option.join_eq_some_iff.1 hpart)
    have hvalue := h.value?
    rw [Option.bind_some, hnone] at hvalue
    exact ⟨none, offer?_of_none henabled hvalue, by simp⟩
  | empty h =>
    obtain ⟨front, back, hoffer⟩ := exists_offer?_of_not_sideFault henabled h.value?
      fun failure hfault => hspoils failure ⟨h, hfault⟩
    refine ⟨_, hoffer, fun o' ho' => ?_⟩
    obtain rfl := Option.some.inj ho'
    exact Offer.counts_eq_false_iff.2 rfl

end TagRule

/-! ## A run without a rule -/

/-- **A run with a match rule that comes to nothing** ends as it does without that rule, with the
same selection or the same failure, wherever the rule stands.  The one exception is a rule whose
group matches the empty text while a text at a side of its value cannot be rendered: then the run
fails with that failure, unless a rule in front of it fails. -/
theorem resolve_without_disqualified (henabled : r.isEnabled context now = .ok true)
    (h : r.Disqualified context now) (before after : List TagRule) :
    ((∀ failure, ¬ r.Spoils context now failure) →
      resolve context now (before ++ r :: after) = resolve context now (before ++ after)) ∧
    ∀ failure, r.Spoils context now failure →
      resolve context now (before ++ r :: after) = (do
        let _ ← resolve context now before
        .error failure) := by
  refine ⟨fun hspoils => ?_, fun failure hspoils => ?_⟩
  · obtain ⟨o, ho, hsilent⟩ := h.offer? henabled hspoils
    exact resolve_of_silent ho hsilent before after
  · obtain ⟨hempty, hfault⟩ := hspoils
    exact resolve_of_failing (hfault.offer? henabled hempty.value?) before after

end

open Builtin in
set_option maxRecDepth 4000 in
/-- A pattern that does not match, in a rule with a malformed text in front of its value. -/
theorem resolve_without_unmatched : ∃ r other,
    TagRule.parse "type=match,pattern=[0-9],prefix=\x7b\x7btag" = .ok r ∧
    TagRule.parse "type=raw,value=a" = .ok other ∧
    r.isEnabled ⟨"refs/tags/v", "860c190", .epoch, "push", "", "main"⟩ .epoch = .ok true ∧
    r.Disqualified ⟨"refs/tags/v", "860c190", .epoch, "push", "", "main"⟩ .epoch ∧
    resolve ⟨"refs/tags/v", "860c190", .epoch, "push", "", "main"⟩ .epoch [r, other] =
      resolve ⟨"refs/tags/v", "860c190", .epoch, "push", "", "main"⟩ .epoch [other] := by
  let event : Context := ⟨"refs/tags/v", "860c190", .epoch, "push", "", "main"⟩
  have hread : (TagRule.parse "type=match,pattern=[0-9],prefix=\x7b\x7btag").map
      (fun r => (r.isEnabled event .epoch, r.matching?)) =
      .ok (.ok true, some ("[0-9]", 0, "")) := by
    decide +kernel
  obtain ⟨r, hparse, hfacts⟩ := map_eq_ok.1 hread
  obtain ⟨henabled, hmatching⟩ := Prod.mk.inj hfacts
  have hsource : versionSource? event .epoch "" = .ok (some "v") := by cbv
  have hfound : (Pattern.compile "[0-9]").map (Pattern.Engine.match? · "v") = .ok none := by
    decide +kernel
  have hfinds := TagRule.finds_of_matching? hmatching hsource hfound
  have hspoils : ∀ failure, ¬ r.Spoils event .epoch failure := by
    rintro failure ⟨hempty, -⟩
    have hvalue := hempty.value?
    rw [hfinds.value?] at hvalue
    simp at hvalue
  exact ⟨r, _, hparse, by cbv, henabled, .unmatched hfinds,
    (resolve_without_disqualified henabled (.unmatched hfinds) [] _).1 hspoils⟩

open Builtin in
set_option maxRecDepth 4000 in
/-- A group that matches the empty text, in a rule with a malformed text in front of its value: the
run fails, and without the rule it does not. -/
theorem resolve_of_empty_capture : ∃ r other,
    TagRule.parse "type=match,pattern=x*,prefix=\x7b\x7btag" = .ok r ∧
    TagRule.parse "type=raw,value=a" = .ok other ∧
    r.isEnabled ⟨"refs/tags/v", "860c190", .epoch, "push", "", "main"⟩ .epoch = .ok true ∧
    r.Disqualified ⟨"refs/tags/v", "860c190", .epoch, "push", "", "main"⟩ .epoch ∧
    resolve ⟨"refs/tags/v", "860c190", .epoch, "push", "", "main"⟩ .epoch [r, other] =
      .error (.template "\x7b\x7btag" .unterminatedExpression) ∧
    resolve ⟨"refs/tags/v", "860c190", .epoch, "push", "", "main"⟩ .epoch [other] =
      .ok ⟨[⟨"a", none, none⟩], none⟩ := by
  let event : Context := ⟨"refs/tags/v", "860c190", .epoch, "push", "", "main"⟩
  have hread : (TagRule.parse "type=match,pattern=x*,prefix=\x7b\x7btag").map
      (fun r => (r.isEnabled event .epoch, r.attributes.get? "prefix", r.matching?)) =
      .ok (.ok true, some "\x7b\x7btag", some ("x*", 0, "")) := by
    decide +kernel
  obtain ⟨r, hparse, hfacts⟩ := map_eq_ok.1 hread
  obtain ⟨henabled, hfacts⟩ := Prod.mk.inj hfacts
  obtain ⟨hattribute, hmatching⟩ := Prod.mk.inj hfacts
  have hsource : versionSource? event .epoch "" = .ok (some "v") := by cbv
  have hfound : (Pattern.compile "x*").map (Pattern.Engine.match? · "v") =
      .ok (some [some ""]) := by
    decide +kernel
  have hempty : r.CapturesEmpty event .epoch :=
    ⟨0, _, TagRule.finds_of_matching? hmatching hsource hfound, rfl⟩
  have hrender : render (eventScope event .epoch) "\x7b\x7btag" =
      .error (.template "\x7b\x7btag" .unterminatedExpression) := by cbv
  have hfault : r.SideFault event .epoch _ := .front hattribute hrender
  have hfails := resolve_of_failing (hfault.offer? henabled hempty.value?) []
  exact ⟨r, _, hparse, by cbv, henabled, .empty hempty, hfails _, by cbv⟩

end ImageTags
