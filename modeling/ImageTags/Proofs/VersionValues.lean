import Mathlib
import ImageTags.Proofs.RuleFailures

/-!
# What a rule gives of a version

A rule that reads versions has a pattern, which says what it gives.  Of a stable version it gives
what the pattern stands for, so it fails where the pattern cannot be rendered.  Of any other it
gives the version in full, or the text as it was given if the pattern asks for nothing else.  Its
pattern is not rendered for that, so it may be malformed, and the rule does not fail.

* `Rule.value?_version` — what a rule gives is a matter of its pattern and of what was read.
* `VersionReading.value_of_stable` — a stable version; `VersionReading.value_of_isRawStatement` and
  `VersionReading.value_of_not_isRawStatement` say it of an unstable one.
* **`TagRule.value?_by_stability`** — every rule that reads a version from its source.
-/

namespace ImageTags

open Text Template
open Calendar (Instant)

/-- A stable version gives what the pattern stands for, with the opinion that it is the latest. -/
lemma VersionReading.value_of_stable {v : VersionReading} (hv : v.unstable = false)
    (pattern : String) :
    v.value pattern = (render v.scope pattern).map fun text => ⟨text, some true⟩ := by
  rw [value, hv, if_neg Bool.false_ne_true]
  cases render v.scope pattern with
  | error failure => rfl
  | ok text => rfl

/-- A pattern that has no blanks around it is the word `raw` alone exactly if it is taken for it. -/
lemma Template.isRawStatement_iff_of_trimmed {pattern : String}
    (h : trim pattern.toList = pattern.toList) :
    isRawStatement pattern = true ↔ IsLoneRaw pattern := by
  rw [isRawStatement_iff, trimmed, h, String.ofList_toList]

section

variable [Calendar.Zones] [Pattern.Engine] {context : Context} {now : Instant}

/-- A rule that reads a version gives what the version gives for its pattern. -/
lemma Rule.value?_version {dialect : Dialect} {value source : String} {v : VersionReading}
    (hsource : versionSource? context now value = .ok (some source))
    (hread : dialect.read? source = some v) (pattern : String) :
    (version dialect pattern value).value? context now = (v.value pattern).map some := by
  rw [value?, hsource]
  simp only [bind, Except.bind, Option.bind_some, hread]
  cases v.value pattern with
  | error failure => rfl
  | ok found => rfl

/-- **What a rule gives of a version.**  The rule was read from a directive, and its dialect reads a
version from the source that the rule has for the event.  If the version is not stable the rule
gives a value, whatever its pattern is, and has the opinion that it is not the latest one: the
source itself if the pattern is the word `raw` between braces, and else the version in full.  If it
is stable the rule gives what the pattern renders to, with the opinion that it is the latest one, or
fails as the pattern does. -/
theorem TagRule.value?_by_stability {directive : String} {r : TagRule} {dialect : Dialect}
    {pattern value source : String} {v : VersionReading} (hparse : TagRule.parse directive = .ok r)
    (hrule : r.rule = .version dialect pattern value)
    (hsource : versionSource? context now value = .ok (some source))
    (hread : dialect.read? source = some v) :
    (v.unstable = true →
      (IsLoneRaw pattern → r.rule.value? context now = .ok (some ⟨source, some false⟩)) ∧
      (¬ IsLoneRaw pattern → r.rule.value? context now = .ok (some ⟨v.version, some false⟩))) ∧
    (v.unstable = false →
      (∃ text, render v.scope pattern = .ok text ∧
        r.rule.value? context now = .ok (some ⟨text, some true⟩)) ∨
      ∃ fault, render v.scope pattern = .error (.template pattern fault) ∧
        r.rule.value? context now = .error (.template pattern fault)) := by
  have htrimmed := (settled_of_parse hparse).trim_pattern hrule
  have hraw := isRawStatement_iff_of_trimmed htrimmed
  have hvalue := Rule.value?_version hsource hread pattern
  rw [hrule, hvalue]
  refine ⟨fun hv => ⟨fun hlone => ?_, fun hlone => ?_⟩, fun hv => ?_⟩
  · rw [VersionReading.value_of_isRawStatement hv (hraw.2 hlone) htrimmed,
      Dialect.raw_of_read? hread]
    rfl
  · rw [VersionReading.value_of_not_isRawStatement hv (mt hraw.1 hlone)]
    rfl
  · rw [VersionReading.value_of_stable hv]
    cases hrender : render v.scope pattern with
    | ok text => exact Or.inl ⟨text, rfl, rfl⟩
    | error failure =>
      obtain ⟨-, fault, rfl⟩ := render_eq_error hrender
      exact Or.inr ⟨fault, rfl, rfl⟩

end

open Builtin in
set_option maxRecDepth 4000 in
/-- A candidate for a release is pushed, and the pattern of the rule is never closed: it could not
be rendered, and the version is given in its normal spelling all the same. -/
theorem TagRule.value?_of_unclosed_pattern : ∃ r v,
    TagRule.parse "type=pep440,pattern=\x7b\x7bmajor" = .ok r ∧
    Dialect.pep440.read? "v1.0-RC.1" = some v ∧ v.unstable = true ∧
    render v.scope "\x7b\x7bmajor" =
      .error (.template "\x7b\x7bmajor" .unterminatedExpression) ∧
    r.rule.value? ⟨"refs/tags/v1.0-RC.1", "860c190", .epoch, "push", "", "main"⟩ .epoch =
      .ok (some ⟨"1.0rc1", some false⟩) := by
  let r : TagRule :=
    ⟨.version .pep440 "\x7b\x7bmajor" "", 900, .ofEntries
      [("pattern", "\x7b\x7bmajor"), ("value", ""), ("enable", "true"), ("priority", "900")]⟩
  have hparse : TagRule.parse "type=pep440,pattern=\x7b\x7bmajor" = .ok r := by cbv
  have hsource : versionSource? ⟨"refs/tags/v1.0-RC.1", "860c190", .epoch, "push", "", "main"⟩
      .epoch "" = .ok (some "v1.0-RC.1") := by cbv
  have hread : Dialect.pep440.read? "v1.0-RC.1" = some ⟨"v1.0-RC.1", "1.0rc1", 1, 0, 0, true⟩ := by
    cbv
  have hraw : isRawStatement "\x7b\x7bmajor" = false := by cbv
  have hlone : ¬ IsLoneRaw "\x7b\x7bmajor" := by
    rw [← isRawStatement_iff_of_trimmed (by cbv), hraw]
    exact Bool.false_ne_true
  exact ⟨r, _, hparse, hread, rfl, by cbv,
    ((value?_by_stability hparse rfl hsource hread).1 rfl).2 hlone⟩

end ImageTags
