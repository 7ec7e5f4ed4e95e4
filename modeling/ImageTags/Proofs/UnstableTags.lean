import Mathlib
import ImageTags.Proofs.RuleText
import ImageTags.Proofs.TagNames
import ImageTags.Proofs.TemplateWords
import ImageTags.Proofs.VersionDialects

/-!
# An unstable version moves no other tag

A pre-release is pushed as a tag, and the rules read a version from that tag.  Whatever patterns
they have, none of them may give the name of a stable version, as `1.2` for `1.2.3-rc.1` would be,
and the tag `latest` may not move.

Three things have to meet for that.  The dialects agree about a text being stable, so it does not
matter which of the rules sees that it is not.  Of an unstable version a rule gives nothing but the
version in full or the text as it was pushed.  And every rule that gives anything has the opinion
that it is not the latest one.

* `isRawStatement_render` — a pattern that is nothing but the text as it was given.
* `VersionReading.value_of_unstable` — what a rule gives of an unstable version.
* `exists_kept_of_offer` — every offer that counts is that of a rule that is kept.
* **`names_of_unstable_push`** — the names, and that `latest` stays where it is.
-/

namespace ImageTags

open Text Template
open Calendar (Instant)

/-! ## The pattern of an unstable version -/

/-- The pattern for unstable versions gives the version in full. -/
lemma render_version (v : VersionReading) :
    Template.render v.scope "\x7b\x7bversion\x7d\x7d" = .ok v.version := by
  have hlower : "version".toList.all Char.isLower = true := by decide
  have htrim : trim "version".toList = "version".toList := trim_eq_self (trimmed_of_isLower hlower)
  have htemplate : "\x7b\x7bversion\x7d\x7d".toList =
      opening ++ ("version".toList ++ closing) := by decide
  refine render_word htemplate ?_ ?_ ?_
  · rw [htrim]
    decide
  · rw [htrim]
    exact List.all_eq_true.1 hlower
  · rw [htrim]
    rfl

/-- **A pattern that is nothing but the text as it was given** gives that text. -/
theorem isRawStatement_render {pattern : String} (h : isRawStatement pattern = true)
    (htrimmed : trim pattern.toList = pattern.toList) (v : VersionReading) :
    Template.render v.scope pattern = .ok v.raw := by
  rw [isRawStatement_iff, trimmed, htrimmed, String.ofList_toList] at h
  obtain ⟨before, after, hbefore, hafter, htext⟩ := h
  have hraw := trim_raw hbefore hafter
  refine render_word htext ?_ ?_ ?_
  · rw [hraw]
    simp
  · rw [hraw]
    simp
  · rw [hraw]
    rfl

/-! ## What a rule gives of an unstable version -/

namespace VersionReading

variable {v : VersionReading} {pattern : String}

lemma value_of_isRawStatement (hv : v.unstable = true) (hraw : isRawStatement pattern = true)
    (htrimmed : trim pattern.toList = pattern.toList) :
    v.value pattern = .ok ⟨v.raw, some false⟩ := by
  rw [value, if_pos hv, unstablePattern, if_pos hraw, isRawStatement_render hraw htrimmed v, hv]
  rfl

lemma value_of_not_isRawStatement (hv : v.unstable = true)
    (hraw : ¬ isRawStatement pattern = true) :
    v.value pattern = .ok ⟨v.version, some false⟩ := by
  rw [value, if_pos hv, unstablePattern, if_neg hraw, render_version v, hv]
  rfl

/-- **Of an unstable version a rule gives the version in full or the text as it was given**, and has
the opinion that it is not the latest one. -/
theorem value_of_unstable (hv : v.unstable = true)
    (htrimmed : trim pattern.toList = pattern.toList) :
    ∃ text, (text = v.version ∨ text = v.raw) ∧ v.value pattern = .ok ⟨text, some false⟩ := by
  by_cases hraw : isRawStatement pattern = true
  · exact ⟨v.raw, Or.inr rfl, value_of_isRawStatement hv hraw htrimmed⟩
  · exact ⟨v.version, Or.inl rfl, value_of_not_isRawStatement hv hraw⟩

end VersionReading

/-- A reading keeps the text that was read. -/
lemma Dialect.raw_of_read? {d : Dialect} {raw : String} {v : VersionReading}
    (h : d.read? raw = some v) : v.raw = raw := by
  cases d with
  | semver =>
    obtain ⟨w, -, rfl⟩ := read?_semver_eq_some_iff.1 h
    rfl
  | pep440 =>
    obtain ⟨w, -, rfl⟩ := read?_pep440_eq_some_iff.1 h
    rfl

section

variable [Calendar.Zones] [Pattern.Engine] {context : Context} {now : Instant}

/-- The value with which a rule is kept that reads an unstable version from the pushed tag. -/
lemma TagRule.kept?_of_unstable {r : TagRule} (hr : r.Settled) {dialect d : Dialect}
    {pattern source : String} {a : VersionReading} {found : RuleValue}
    (hrule : r.rule = .version dialect pattern "") (hpush : pushedTag? context = some source)
    (ha : d.read? source = some a) (hunstable : a.unstable = true)
    (h : r.kept? context now = some found) :
    r.isEnabled context now = .ok true ∧ ∃ v, dialect.read? source = some v ∧
      v.unstable = true ∧ found.latest = some false ∧
      (found.value = v.version ∨ found.value = source) := by
  rw [kept?] at h
  split at h
  · next found' henabled hvalue =>
    obtain rfl : found' = found := by
      split at h
      · simp at h
      · exact Option.some.inj h
    refine ⟨henabled, ?_⟩
    have hsource : versionSource? context now "" = .ok (some source) := by
      rw [versionSource?, if_pos rfl, hpush]
    rw [hrule, Rule.value?, hsource] at hvalue
    simp only [bind, Except.bind, Option.bind_some] at hvalue
    cases hread : dialect.read? source with
    | none => simp [hread] at hvalue
    | some v =>
      have hv : v.unstable = true := (Dialect.unstable_eq hread ha).trans hunstable
      obtain ⟨text, htext, hgiven⟩ := VersionReading.value_of_unstable hv (hr.trim_pattern hrule)
      obtain rfl : ⟨text, some false⟩ = found' := by simpa [hread, hgiven] using hvalue
      rw [Dialect.raw_of_read? hread] at htext
      exact ⟨v, rfl, hv, rfl, htext⟩
  · simp at h

/-! ## Where the names come from -/

/-- **Every offer that counts is that of a rule that is kept.** -/
theorem exists_kept_of_offer {rules : List TagRule} {offers : List (Option Offer)}
    (h : rules.mapM (TagRule.offer? context now) = .ok offers) {o : Offer}
    (ho : o ∈ (offers.filterMap id).filter Offer.counts) :
    ∃ r ∈ rules, ∃ found, r.kept? context now = some found ∧ o.latest = found.latest ∧
      ∀ f, r.tagText context now f found = .ok (f.compose o.candidate) := by
  obtain ⟨hmem, hcounts⟩ := List.mem_filter.1 ho
  obtain ⟨o', ho', rfl⟩ := List.mem_filterMap.1 hmem
  obtain ⟨r, hr, hoffer⟩ := exists_of_mem_mapM h ho'
  rcases TagRule.offer?_eq_ok hoffer with ⟨found, hkept, c, heq, -, htext⟩ | ⟨-, hnot⟩
  · obtain rfl := Option.some.inj heq
    exact ⟨r, hr, found, hkept, rfl, htext⟩
  · simp [hnot o rfl] at hcounts

/-- A name that shows the whole version that a rule reads from the pushed tag `source`: in its
normal spelling or as it was pushed, between the texts at the sides of the rule's tags. -/
def TagRule.ShowsWhole (context : Context) (now : Instant) (f : Flavor) (source : String)
    (r : TagRule) (name : String) : Prop :=
  ∃ dialect pattern v front back,
    r.rule = .version dialect pattern "" ∧ r.isEnabled context now = .ok true ∧
    dialect.read? source = some v ∧ v.unstable = true ∧
    r.sideText context now "prefix" f.front = .ok front ∧
    r.sideText context now "suffix" f.back = .ok back ∧
    (name = front ++ v.version ++ back ∨ name = front ++ source ++ back)

/-- **An unstable version moves no other tag.**  A tag is pushed, all rules read a version from it,
and one of their dialects finds that it is unstable.  Then the run does not make the latest version,
and every name shows the whole version, as one of the rules reads it or as it was pushed. -/
theorem names_of_unstable_push {rules : List TagRule} {s : Selection} {f : Flavor}
    {source : String} (hpush : pushedTag? context = some source)
    (hrules : ∀ r ∈ rules, ∃ directive dialect pattern,
      TagRule.parse directive = .ok r ∧ r.rule = .version dialect pattern "")
    (hunstable : ∃ r ∈ rules, ∃ dialect pattern v, r.rule = .version dialect pattern "" ∧
      dialect.read? source = some v ∧ v.unstable = true)
    (hs : resolve context now rules = .ok s) (hf : f.latest = .auto) :
    (f.dress s).latest = false ∧
      ∀ name ∈ (f.dress s).names, ∃ r ∈ rules, r.ShowsWhole context now f source name := by
  obtain ⟨-, -, d, -, a, -, ha, hunstable⟩ := hunstable
  obtain ⟨offers, hoffers, hselection⟩ := bind_eq_ok.1 hs
  obtain rfl := Except.ok.inj hselection
  -- what each offer that counts has from its rule
  have hcounting : ∀ o ∈ (offers.filterMap id).filter Offer.counts, o.latest = some false ∧
      ∃ r ∈ rules, r.ShowsWhole context now f source (f.compose o.candidate) := by
    intro o ho
    obtain ⟨r, hr, found, hkept, hlatest, htext⟩ := exists_kept_of_offer hoffers ho
    obtain ⟨directive, dialect, pattern, hparse, hrule⟩ := hrules r hr
    obtain ⟨henabled, v, hv, hv', hfalse, hvalue⟩ := TagRule.kept?_of_unstable
      (TagRule.settled_of_parse hparse) hrule hpush ha hunstable hkept
    obtain ⟨front, hfront, hname⟩ := bind_eq_ok.1 (htext f)
    obtain ⟨back, hback, hname⟩ := bind_eq_ok.1 hname
    refine ⟨hlatest.trans hfalse, r, hr, dialect, pattern, v, front, back, hrule, henabled, hv,
      hv', hfront, hback, ?_⟩
    rw [← Except.ok.inj hname]
    rcases hvalue with hvalue | hvalue
    · exact Or.inl (by rw [hvalue])
    · exact Or.inr (by rw [hvalue])
  have hlatest : (f.dress (.ofOffers (offers.filterMap id))).latest = false := by
    rw [← Bool.not_eq_true, Flavor.latest_dress, Selection.latest_ofOffers]
    rintro ⟨-, halways | ⟨-, hopinion⟩⟩
    · simp [hf] at halways
    · obtain ⟨o, ho, htrue⟩ := List.exists_of_findSome?_eq_some hopinion
      simp [(hcounting o ho).1] at htrue
  refine ⟨hlatest, fun name hname => ?_⟩
  rw [Flavor.names_dress_ofOffers, hlatest, List.mem_eraseDups] at hname
  simp only [Bool.false_eq_true, if_false, List.append_nil, Offer.countingCandidates,
    List.map_map, List.mem_map] at hname
  obtain ⟨o, ho, rfl⟩ := hname
  exact (hcounting o ho).2

end

open Builtin in
set_option maxRecDepth 4000 in
/-- A pre-release is pushed whose name has a slash.  One rule asks for less than the whole version
and does not get it, the other asks for the text as it was pushed, with an affix of its own. -/
theorem names_of_candidate_push :
    ∃ rules s,
      resolve ⟨"refs/tags/v1.2.3/rc.1", "860c190", .epoch, "push", "", "main"⟩ .epoch rules =
        .ok s ∧
      (Flavor.dress ⟨.auto, "x-", "", false, false, none⟩ s).names =
        ["x-1.2.3-rc.1", "py-v1.2.3-rc.1"] ∧
      (Flavor.dress ⟨.auto, "x-", "", false, false, none⟩ s).latest = false ∧
      ∀ name ∈ (Flavor.dress ⟨.auto, "x-", "", false, false, none⟩ s).names, ∃ r ∈ rules,
        r.ShowsWhole ⟨"refs/tags/v1.2.3/rc.1", "860c190", .epoch, "push", "", "main"⟩ .epoch
          ⟨.auto, "x-", "", false, false, none⟩ "v1.2.3-rc.1" name := by
  let event : Context := ⟨"refs/tags/v1.2.3/rc.1", "860c190", .epoch, "push", "", "main"⟩
  let f : Flavor := ⟨.auto, "x-", "", false, false, none⟩
  let short : TagRule :=
    ⟨.version .semver "\x7b\x7bmajor\x7d\x7d" "", 900, .ofEntries
      [("pattern", "\x7b\x7bmajor\x7d\x7d"), ("value", ""), ("enable", "true"),
        ("priority", "900")]⟩
  let given : TagRule :=
    ⟨.version .pep440 "\x7b\x7b raw \x7d\x7d" "", 900, .ofEntries
      [("pattern", "\x7b\x7b raw \x7d\x7d"), ("prefix", "py-"), ("value", ""),
        ("enable", "true"), ("priority", "900")]⟩
  have hrules : ∀ r ∈ [short, given], ∃ directive dialect pattern,
      TagRule.parse directive = .ok r ∧ r.rule = .version dialect pattern "" := by
    refine List.forall_mem_cons.2 ⟨?_, List.forall_mem_cons.2 ⟨?_, by simp⟩⟩
    · exact ⟨"type=semver,pattern=\x7b\x7bmajor\x7d\x7d", _, _, by cbv, rfl⟩
    · exact ⟨"type=pep440,pattern=\x7b\x7b raw \x7d\x7d,prefix=py-", _, _, by cbv, rfl⟩
  have hread : Dialect.semver.read? "v1.2.3-rc.1" =
      some ⟨"v1.2.3-rc.1", "1.2.3-rc.1", 1, 2, 3, true⟩ := by cbv
  have hsource : versionSource? event .epoch "" = .ok (some "v1.2.3-rc.1") := by cbv
  have hvalue : short.rule.value? event .epoch = .ok (some ⟨"1.2.3-rc.1", some false⟩) := by
    rw [Rule.value?, hsource]
    simp only [bind, Except.bind, Option.bind_some, hread]
    have hraw : isRawStatement "\x7b\x7bmajor\x7d\x7d" = false := by cbv
    rw [VersionReading.value_of_not_isRawStatement rfl (by simp [hraw])]
  have hshort : short.offer? event .epoch =
      .ok (some ⟨⟨"1.2.3-rc.1", none, none⟩, some false⟩) := by
    rw [TagRule.offer?, hvalue]
    cbv
  have hgiven : given.offer? event .epoch =
      .ok (some ⟨⟨"v1.2.3-rc.1", some "py-", none⟩, some false⟩) := by cbv
  have hs : resolve event .epoch [short, given] =
      .ok ⟨[⟨"1.2.3-rc.1", none, none⟩, ⟨"v1.2.3-rc.1", some "py-", none⟩], some false⟩ := by
    rw [resolve, mapM_cons_eq_ok.2 ⟨_, hshort, _, mapM_cons_eq_ok.2 ⟨_, hgiven, _, rfl, rfl⟩, rfl⟩]
    rfl
  have hpush : pushedTag? event = some "v1.2.3-rc.1" := by cbv
  have hauto : f.latest = .auto := rfl
  obtain ⟨hlatest, hnames⟩ := names_of_unstable_push hpush hrules
    ⟨short, by simp, _, _, _, rfl, hread, rfl⟩ hs hauto
  exact ⟨_, _, hs, by cbv, hlatest, hnames⟩

end ImageTags
