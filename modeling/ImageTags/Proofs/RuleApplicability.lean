import ImageTags.Proofs.RuleText
import ImageTags.Proofs.TemplateCuts
import ImageTags.Resolve

/-!
# When a rule applies

A rule yields a candidate for some events and none for others, and a rule that does not apply is no
failure.  The conditions are a table with one row for each kind of rule, written in terms of the
attributes that were configured and of the event.  Only the row of `schedule` leaves a choice: which
names of events count as a schedule.  The program asks whether the name has the word in it.

* `TagRule.candidate?` — what a rule yields, whether or not it is switched on.
* `TagRule.Source` — the text that versions are read from and patterns are matched with.
* `TagRule.Applies` — the table.
* `TagRule.offer?_eq`, `TagRule.isSome_offer?_iff` — what that has to do with the offers of a run.
* **`TagRule.isSome_candidate?_iff`** — a rule that was read yields a candidate exactly if it
  applies.
-/

namespace ImageTags

open Text Template

variable {context : Context} {now : Calendar.Instant}

/-! ## The table -/

/-- Whether a ref is of the kind that a rule about refs asks for. -/
def RefKind.IsOf (kind : RefKind) : RefEvent → Prop
  | .branch => ∃ name, kind = .branch name
  | .tag => ∃ name, kind = .tag name
  | .pullRequest => ∃ number, kind = .pullRequest number

/-- The event is taken for a schedule if its name has the word in it. -/
lemma Context.isSchedule_iff :
    context.isSchedule = true ↔ "schedule".toList <:+: context.eventName.toList := by
  rw [isSchedule, mentions, containsText, ← not_iff_not, ← splitAtText?_eq_none_iff,
    Bool.not_eq_true, Option.isSome_eq_false_iff, Option.isNone_iff_eq_none]

lemma pushedTag?_eq_some_iff {source : String} : pushedTag? context = some source ↔
    ∃ tag, context.refKind = .tag tag ∧
      source = String.ofList (tag.toList.map fun c => if c = '/' then '-' else c) := by
  rw [pushedTag?, Context.tag?, Option.map_eq_some_iff]
  cases context.refKind <;> simp [eq_comm]

section

variable [Calendar.Zones] [Pattern.Engine]

namespace TagRule

/-- What a rule yields for an event in a run at the instant `now`, whether or not it is switched
on. -/
def candidate? (context : Context) (now : Calendar.Instant) (r : TagRule) :
    Except Failure (Option Offer) := do
  match ← r.rule.value? context now with
  | some found => do
    let front ← r.affix? context now "prefix"
    let back ← r.affix? context now "suffix"
    .ok (some ⟨⟨found.value, front, back⟩, found.latest⟩)
  | none => .ok none

/-- **A rule that is switched on offers what it yields**, and one that is switched off offers
nothing. -/
theorem offer?_eq (r : TagRule) : r.offer? context now = (do
    if ← r.isEnabled context now then r.candidate? context now else .ok none) := rfl

/-- The text that a rule reads: the attribute `value`, rendered, unless it is empty, and then the
name of the pushed tag with hyphens for its slashes. -/
inductive Source (context : Context) (now : Calendar.Instant) (r : TagRule) : String → Prop
  | value {template source : String} (hvalue : r.attributes.get? "value" = some template)
      (hne : template ≠ "") (hrender : render (eventScope context now) template = .ok source) :
      Source context now r source
  | pushed {tag : String} (hvalue : r.attributes.get? "value" = some "")
      (htag : context.refKind = .tag tag) :
      Source context now r (String.ofList (tag.toList.map fun c => if c = '/' then '-' else c))

/-- Whether the pattern of a rule matches a text and the group that the rule asks for takes part in
the match. -/
def Captures (r : TagRule) (source : String) : Prop :=
  ∃ pattern program text group groups part,
    r.attributes.get? "pattern" = some pattern ∧ Pattern.compile pattern = .ok program ∧
    r.attributes.get? "group" = some text ∧
    Numeral.readUnsigned? (trim text.toList) = some group ∧
    Pattern.Engine.match? program source = some groups ∧ groups[group]? = some (some part)

/-- Whether a rule applies to an event, where `scheduled` says which names of events are those of a
schedule. -/
def Applies (scheduled : String → Prop) (context : Context) (now : Calendar.Instant)
    (r : TagRule) : Prop :=
  match r.rule.kind with
  | .schedule => scheduled context.eventName
  | .version dialect => ∃ source, r.Source context now source ∧ (dialect.read? source).isSome
  | .matching => ∃ source, r.Source context now source ∧ r.Captures source
  | .edge => ∃ branch, r.attributes.get? "branch" = some branch ∧
      context.refKind = .branch (if branch = "" then context.defaultBranch else branch)
  | .ref => ∃ text event, r.attributes.get? "event" = some text ∧
      RefEvent.ofName? text = some event ∧ context.refKind.IsOf event
  | .raw => True
  | .sha => context.sha ≠ ""

end TagRule

/-! ## The rows -/

namespace Rule

variable {found : Option RuleValue}

lemma isSome_schedule_iff {pattern : String}
    (h : (schedule pattern).value? context now = .ok found) :
    found.isSome ↔ "schedule".toList <:+: context.eventName.toList := by
  rw [← Context.isSchedule_iff]
  rw [value?] at h
  split at h
  · next hschedule =>
    obtain ⟨text, -, h⟩ := bind_eq_ok.1 h
    obtain rfl := Except.ok.inj h
    simp [hschedule]
  · next hschedule =>
    obtain rfl := Except.ok.inj h
    simp [hschedule]

/-- A version is read from a source, if there is one. -/
lemma isSome_version_iff {dialect : Dialect} {pattern value : String}
    (h : (version dialect pattern value).value? context now = .ok found) :
    ∃ read, versionSource? context now value = .ok read ∧
      (found.isSome ↔ ∃ source, read = some source ∧ (dialect.read? source).isSome) := by
  obtain ⟨read, hread, h⟩ := bind_eq_ok.1 h
  refine ⟨read, hread, ?_⟩
  cases read with
  | none =>
    obtain rfl := Except.ok.inj h
    simp
  | some source =>
    rw [Option.bind_some] at h
    cases hversion : dialect.read? source with
    | none =>
      rw [hversion] at h
      obtain rfl := Except.ok.inj h
      simp [hversion]
    | some v =>
      rw [hversion] at h
      obtain ⟨value, -, h⟩ := bind_eq_ok.1 h
      obtain rfl := Except.ok.inj h
      simp [hversion]

/-- A pattern is matched with a source, if there is one. -/
lemma isSome_matching_iff {matcher : Pattern.Matcher} {group : Nat} {value : String}
    (h : (matching matcher group value).value? context now = .ok found) :
    ∃ read, versionSource? context now value = .ok read ∧
      (found.isSome ↔ ∃ source, read = some source ∧ (matcher.group? group source).isSome) := by
  obtain ⟨read, hread, h⟩ := bind_eq_ok.1 h
  obtain rfl := Except.ok.inj h
  refine ⟨read, hread, ?_⟩
  cases read <;> simp

lemma isSome_edge_iff {branch : String} (h : (edge branch).value? context now = .ok found) :
    found.isSome ↔
      context.refKind = .branch (if branch = "" then context.defaultBranch else branch) := by
  obtain rfl := Except.ok.inj h
  rw [Context.branch?]
  cases context.refKind <;> simp

lemma isSome_ref_iff {event : RefEvent} (h : (ref event).value? context now = .ok found) :
    found.isSome ↔ context.refKind.IsOf event := by
  obtain rfl := Except.ok.inj h
  cases event <;> cases context.refKind <;> simp [refValue?, RefKind.IsOf]

lemma isSome_sha_iff {format : ShaFormat} (h : (sha format).value? context now = .ok found) :
    found.isSome ↔ context.sha ≠ "" := by
  obtain rfl := Except.ok.inj h
  split <;> simp [*]

lemma isSome_raw {value : String} (h : (raw value).value? context now = .ok found) :
    found.isSome := by
  obtain ⟨text, -, h⟩ := bind_eq_ok.1 h
  obtain rfl := Except.ok.inj h
  rfl

end Rule

/-! ## The attributes of a rule that was read -/

namespace TagRule

variable {r : TagRule}

/-- The text that is read for the attribute `value` of a rule is its source. -/
lemma source_iff {value : String} {read : Option String}
    (hvalue : r.attributes.get? "value" = some value)
    (h : versionSource? context now value = .ok read) {source : String} :
    read = some source ↔ r.Source context now source := by
  rw [versionSource?] at h
  split at h
  · next hempty =>
    subst hempty
    obtain rfl := Except.ok.inj h
    rw [pushedTag?_eq_some_iff]
    constructor
    · rintro ⟨tag, htag, rfl⟩
      exact .pushed hvalue htag
    · rintro (⟨hvalue', hne, -⟩ | ⟨-, htag⟩)
      · exact absurd (Option.some.inj (hvalue'.symm.trans hvalue)) hne
      · exact ⟨_, htag, rfl⟩
  · next hne =>
    obtain ⟨text, hrender, rfl⟩ := map_eq_ok.1 h
    rw [Option.some.injEq]
    constructor
    · rintro rfl
      exact .value hvalue hne hrender
    · rintro (⟨hvalue', -, hrender'⟩ | ⟨hvalue', -⟩)
      · obtain rfl := Option.some.inj (hvalue.symm.trans hvalue')
        exact Except.ok.inj (hrender.symm.trans hrender')
      · exact absurd (Option.some.inj (hvalue.symm.trans hvalue')) hne

omit [Calendar.Zones] in
/-- The pattern and the group of a rule are those of its attributes. -/
lemma Settled.captures_iff (h : r.Settled) {matcher : Pattern.Matcher} {group : Nat}
    {value source : String} (hrule : r.rule = .matching matcher group value) :
    r.Captures source ↔ (matcher.group? group source).isSome := by
  have hreads := h.reads
  rw [hrule] at hreads
  obtain ⟨hpattern, ⟨text, htext, hgroup⟩, -⟩ := hreads
  rw [Option.isSome_iff_exists]
  constructor
  · rintro ⟨pattern, program, text', group, groups, part, hpattern', hprogram, htext', hgroup',
      hmatch, hpart⟩
    obtain rfl := Option.some.inj (hpattern'.symm.trans hpattern)
    obtain rfl := Option.some.inj (htext'.symm.trans htext)
    obtain rfl := Option.some.inj (hgroup'.symm.trans hgroup)
    obtain rfl := Except.ok.inj (hprogram.symm.trans matcher.compiled)
    exact ⟨part, Option.bind_eq_some_iff.2 ⟨groups, hmatch, by rw [hpart]; rfl⟩⟩
  · rintro ⟨part, hpart⟩
    obtain ⟨groups, hmatch, hjoin⟩ := Option.bind_eq_some_iff.1 hpart
    exact ⟨_, _, text, group, groups, part, hpattern, matcher.compiled, htext, hgroup, hmatch,
      Option.join_eq_some_iff.1 hjoin⟩

/-! ## Candidates -/

lemma candidate?_eq_ok {o : Option Offer} (h : r.candidate? context now = .ok o) :
    ∃ found, r.rule.value? context now = .ok found ∧ o.isSome = found.isSome := by
  obtain ⟨found, hfound, h⟩ := bind_eq_ok.1 h
  refine ⟨found, hfound, ?_⟩
  cases found with
  | none =>
    obtain rfl := Except.ok.inj h
    rfl
  | some value =>
    obtain ⟨front, -, h⟩ := bind_eq_ok.1 h
    obtain ⟨back, -, h⟩ := bind_eq_ok.1 h
    obtain rfl := Except.ok.inj h
    rfl

/-- The rows of the table for a rule that was read, with what the program takes for a schedule. -/
theorem Settled.isSome_value?_iff (h : r.Settled) {found : Option RuleValue}
    (hfound : r.rule.value? context now = .ok found) :
    found.isSome ↔ r.Applies (fun name => "schedule".toList <:+: name.toList) context now := by
  have hget := Rule.get?_of_mem_texts (h.rule "")
  cases hrule : r.rule with
  | schedule pattern =>
    rw [hrule] at hfound
    rw [Applies, hrule]
    exact Rule.isSome_schedule_iff hfound
  | version dialect pattern value =>
    rw [hrule] at hfound hget
    have hvalue : r.attributes.get? "value" = some value :=
      hget ("value", value) (by simp [Rule.texts])
    obtain ⟨read, hread, hiff⟩ := Rule.isSome_version_iff hfound
    rw [hiff, Applies, hrule]
    simp only [source_iff hvalue hread]
    rfl
  | matching matcher group value =>
    rw [hrule] at hfound hget
    have hvalue : r.attributes.get? "value" = some value :=
      hget ("value", value) (by simp [Rule.texts])
    obtain ⟨read, hread, hiff⟩ := Rule.isSome_matching_iff hfound
    rw [hiff, Applies, hrule]
    simp only [source_iff hvalue hread, ← h.captures_iff hrule]
    rfl
  | edge branch =>
    rw [hrule] at hfound hget
    have hbranch : r.attributes.get? "branch" = some branch :=
      hget ("branch", branch) (by simp [Rule.texts])
    rw [Rule.isSome_edge_iff hfound, Applies, hrule]
    constructor
    · intro href
      exact ⟨branch, hbranch, href⟩
    · rintro ⟨branch', hbranch', href⟩
      obtain rfl := Option.some.inj (hbranch.symm.trans hbranch')
      exact href
  | ref event =>
    rw [hrule] at hfound
    obtain ⟨text, htext, hevent⟩ := h.exists_event hrule
    rw [Rule.isSome_ref_iff hfound, Applies, hrule]
    constructor
    · intro href
      exact ⟨text, event, htext, hevent, href⟩
    · rintro ⟨text', event', htext', hevent', href⟩
      obtain rfl := Option.some.inj (htext.symm.trans htext')
      obtain rfl := Option.some.inj (hevent.symm.trans hevent')
      exact href
  | raw value =>
    rw [hrule] at hfound
    rw [Applies, hrule]
    exact iff_of_true (Rule.isSome_raw hfound) trivial
  | sha format =>
    rw [hrule] at hfound
    rw [Applies, hrule]
    exact Rule.isSome_sha_iff hfound

/-- Two notions of a schedule that agree on the name of an event agree on whether a rule applies. -/
lemma applies_congr {scheduled scheduled' : String → Prop}
    (h : r.rule.kind = .schedule → (scheduled context.eventName ↔ scheduled' context.eventName)) :
    r.Applies scheduled context now ↔ r.Applies scheduled' context now := by
  rw [Applies, Applies]
  cases hkind : r.rule.kind with
  | schedule => exact h hkind
  | _ => exact Iff.rfl

/-- **A rule that was read makes an offer exactly if it is switched on and applies.** -/
theorem isSome_offer?_iff {directive : String} (hparse : TagRule.parse directive = .ok r)
    {o : Option Offer} (h : r.offer? context now = .ok o) :
    o.isSome ↔ r.isEnabled context now = .ok true ∧
      r.Applies (fun name => "schedule".toList <:+: name.toList) context now := by
  rw [offer?_eq] at h
  obtain ⟨enabled, henabled, h⟩ := bind_eq_ok.1 h
  cases enabled with
  | false =>
    obtain rfl := Except.ok.inj h
    simp [henabled]
  | true =>
    obtain ⟨found, hfound, ho⟩ := candidate?_eq_ok h
    rw [ho, (settled_of_parse hparse).isSome_value?_iff hfound]
    simp [henabled]

/-- **A rule that was read yields a candidate exactly if it applies**, where every event is taken
for a schedule that has the word in its name.  So the table in which the name of the event must be
that word holds as well, but for a rule of the kind `schedule` at an event with a longer name. -/
theorem isSome_candidate?_iff {directive : String} (hparse : TagRule.parse directive = .ok r)
    {o : Option Offer} (h : r.candidate? context now = .ok o) :
    (o.isSome ↔ r.Applies (fun name => "schedule".toList <:+: name.toList) context now) ∧
    ((o.isSome ↔ r.Applies (· = "schedule") context now) ↔
      ¬ (r.rule.kind = .schedule ∧ "schedule".toList <:+: context.eventName.toList ∧
        context.eventName ≠ "schedule")) := by
  obtain ⟨found, hfound, ho⟩ := candidate?_eq_ok h
  have hiff := (settled_of_parse hparse).isSome_value?_iff hfound
  rw [← ho] at hiff
  refine ⟨hiff, ?_⟩
  by_cases hlonger : r.rule.kind = .schedule ∧
      "schedule".toList <:+: context.eventName.toList ∧ context.eventName ≠ "schedule"
  · -- the rule applies by the first table and not by the second
    obtain ⟨hkind, hword, hname⟩ := hlonger
    rw [Applies, hkind] at hiff
    rw [Applies, hkind]
    exact iff_of_false (fun h => hname (h.1 (hiff.2 hword))) fun h => h ⟨rfl, hword, hname⟩
  · refine iff_of_true (hiff.trans (applies_congr fun hkind => ⟨fun hword => ?_, ?_⟩)) hlonger
    · by_contra hname
      exact hlonger ⟨hkind, hword, hname⟩
    · intro hname
      rw [hname]

end TagRule

end

open Builtin in
set_option maxRecDepth 4000 in
/-- The rule about pull requests, with the text that it puts in front of their number. -/
theorem TagRule.isSome_candidate?_of_pull_request : ∃ r o,
    TagRule.parse "type=ref,event=pr" = .ok r ∧
    r.candidate? ⟨"refs/pull/7/merge", "", .epoch, "pull_request", "", "main"⟩ .epoch = .ok o ∧
    (o.isSome ↔ r.Applies (fun name => "schedule".toList <:+: name.toList)
      ⟨"refs/pull/7/merge", "", .epoch, "pull_request", "", "main"⟩ .epoch) ∧
    ((o.isSome ↔ r.Applies (· = "schedule")
        ⟨"refs/pull/7/merge", "", .epoch, "pull_request", "", "main"⟩ .epoch) ↔
      ¬ (r.rule.kind = .schedule ∧ "schedule".toList <:+: "pull_request".toList ∧
        "pull_request" ≠ "schedule")) := by
  let r : TagRule :=
    ⟨.ref .pullRequest, 600, .ofEntries
      [("event", "pr"), ("prefix", "pr-"), ("enable", "true"), ("priority", "600")]⟩
  have hparse : TagRule.parse "type=ref,event=pr" = .ok r := by cbv
  have hcandidate :
      r.candidate? ⟨"refs/pull/7/merge", "", .epoch, "pull_request", "", "main"⟩ .epoch =
        .ok (some ⟨⟨"7", some "pr-", none⟩, none⟩) := by
    cbv
  exact ⟨r, _, hparse, hcandidate, TagRule.isSome_candidate?_iff hparse hcandidate⟩

open Builtin in
set_option maxRecDepth 4000 in
/-- An event that is no schedule but has the word in its name. -/
theorem TagRule.candidate?_of_rescheduled : ∃ r, TagRule.parse "type=schedule" = .ok r ∧
    r.candidate? ⟨"refs/heads/main", "", .epoch, "rescheduled", "", "main"⟩ .epoch =
      .ok (some ⟨⟨"nightly", none, none⟩, none⟩) ∧
    ¬ r.Applies (· = "schedule")
      ⟨"refs/heads/main", "", .epoch, "rescheduled", "", "main"⟩ .epoch := by
  let r : TagRule :=
    ⟨.schedule "nightly", 1000, .ofEntries
      [("pattern", "nightly"), ("enable", "true"), ("priority", "1000")]⟩
  have hparse : TagRule.parse "type=schedule" = .ok r := by cbv
  refine ⟨r, hparse, by cbv, ?_⟩
  show ¬ "rescheduled" = "schedule"
  decide

end ImageTags
