import Mathlib
import ImageTags.Builtin
import ImageTags.Proofs.Dictionaries
import ImageTags.Proofs.RuleEntries
import ImageTags.Proofs.Steps
import ImageTags.Proofs.Trim

/-!
# A rule written out is read back

`TagRule.text` writes a rule out with its kind and every attribute.  Reading goes through four
layers, and each of them gives back what was written: the record has the same fields, each field
splits into the same key and value, nothing is left to be filled in, and the same attributes make
the same rule.

What carries the proof from the first reading to the second is that attributes are *settled*: keys
are trimmed, in lower case and without an equals sign, values are trimmed.  The first reading
settles what it finds, and on settled attributes the second has nothing to do.

* `Attribute.Settled` — the invariant, and `TagRule.Settled` what follows for the whole rule.
* `TagRule.Stages` — what a rule that was read went through, and
  `TagRule.exists_of_mem_attributes` where its attributes come from.
* `Rule.Reads` — whether a rule has what its attributes say, and `Rule.reads_of_ofAttributes` that
  it has.
* **`TagRule.settled_of_parse`** — every rule that was read is settled.
* **`TagRule.parse_text`** — the round trip.
-/

namespace ImageTags

open Text

/-! ## Settled attributes -/

/-- A key that reading does not change. -/
structure Attribute.SettledKey (key : String) : Prop where
  no_equals : '=' ∉ key.toList
  lower : lowerCase (trim key.toList) = key.toList

/-- An attribute that reading does not change and that does not name a kind. -/
structure Attribute.Settled (pair : String × String) : Prop where
  key : SettledKey pair.1
  value : trim pair.2.toList = pair.2.toList
  not_type : pair.1 ≠ "type"

/-- A word of letters from `a` to `z` is a settled key. -/
lemma Attribute.settledKey_of_isLower {key : String} (h : key.toList.all Char.isLower = true) :
    Attribute.SettledKey key where
  no_equals hmem := absurd (List.all_eq_true.1 h '=' hmem) (by decide)
  lower := by rw [trim_eq_self (trimmed_of_isLower h), lowerCase_of_isLower h]

/-- The pair that a field is split into is settled already. -/
lemma Directive.settled_of_pair? {field key value : String}
    (h : Directive.pair? field = some (key, value)) (hkey : key ≠ "type") :
    Attribute.Settled (key, value) := by
  obtain ⟨⟨k, v⟩, hsplit, heq⟩ := Option.map_eq_some_iff.1 h
  obtain ⟨rfl, rfl⟩ := Prod.mk.inj heq
  have hequals : '=' ∉ k := (splitFirst?_eq_some_iff.1 hsplit).2
  refine ⟨⟨?_, ?_⟩, ?_, hkey⟩ <;> simp only [String.toList_ofList]
  · exact equals_not_mem_lowerCase fun hmem => hequals (mem_of_mem_trim hmem)
  · exact lowerCase_trim_again k
  · exact trim_trim v

/-- A settled key and a trimmed value that are written as a field are read back. -/
lemma Directive.pair?_of_settled {key value : String} (hkey : Attribute.SettledKey key)
    (hvalue : trim value.toList = value.toList) :
    Directive.pair? (key ++ "=" ++ value) = some (key, value) := by
  have hsplit : splitFirst? '=' (key ++ "=" ++ value).toList =
      some (key.toList, value.toList) := by
    refine splitFirst?_eq_some_iff.2 ⟨?_, hkey.no_equals⟩
    simp
  rw [pair?, hsplit]
  simp only [Option.map_some]
  rw [hkey.lower, hvalue, String.ofList_toList, String.ofList_toList]

/-! ## Entries -/

lemma RuleEntry.settled_of_read {directive field : String} {leading : Bool}
    {pair : String × String}
    (h : RuleEntry.read directive leading field = .ok (.attr pair.1 pair.2)) :
    Attribute.Settled pair := by
  obtain ⟨key, value⟩ := pair
  have hsaid : Says leading field (.attr key value) := read_eq_ok_iff.1 h
  cases hsaid with
  | pair hpair htype => exact Directive.settled_of_pair? hpair htype
  | word hword hkind =>
    have hkey : Attribute.SettledKey "value" := Attribute.settledKey_of_isLower (by decide)
    refine ⟨hkey, ?_, by simp⟩
    simp only [trimmed, String.toList_ofList, trim_trim]

/-- An attribute that is read is read from one of the fields. -/
lemma RuleEntry.exists_of_readAll {directive : String} {fields : List String}
    {entries : List RuleEntry} (h : RuleEntry.readAll directive fields = .ok entries)
    {pair : String × String} (hpair : pair ∈ entries.filterMap RuleEntry.attr?) :
    ∃ field ∈ fields, ∃ leading,
      RuleEntry.read directive leading field = .ok (.attr pair.1 pair.2) := by
  obtain ⟨entry, hentry, hattr⟩ := List.mem_filterMap.1 hpair
  obtain rfl : entry = .attr pair.1 pair.2 := by
    cases entry with
    | kind k => simp [attr?] at hattr
    | attr key value =>
      obtain rfl := Option.some.inj hattr
      rfl
  cases fields with
  | nil =>
    obtain rfl := Except.ok.inj h
    simp at hentry
  | cons field fields =>
    obtain ⟨first, hfirst, h⟩ := bind_eq_ok.1 h
    obtain ⟨others, hothers, h⟩ := bind_eq_ok.1 h
    obtain rfl := Except.ok.inj h
    rcases List.mem_cons.1 hentry with hentry | hentry
    · exact ⟨field, List.mem_cons_self, _, hentry ▸ hfirst⟩
    · obtain ⟨field', hfield', hread⟩ := exists_of_mem_mapM hothers hentry
      exact ⟨field', List.mem_cons_of_mem _ hfield', _, hread⟩

/-! ## Attributes that were left out -/

/-- All attributes that a kind fills in. -/
def RuleKind.allDefaults (set : Dictionary String) (kind : RuleKind) : List (String × String) :=
  kind.defaults set ++
    [("enable", "true"), ("priority", String.ofList (Numeral.ofInt kind.priority))]

lemma RuleKind.complete_eq (kind : RuleKind) (set : Dictionary String) :
    kind.complete set = set.insertAllIfNew (kind.allDefaults set) := rfl

/-- Of the attributes that are set only `event` decides what is filled in, and it is never filled
in itself. -/
lemma RuleKind.get?_event_complete (kind : RuleKind) (set : Dictionary String) :
    (kind.complete set).get? "event" = set.get? "event" := by
  have hnone : (kind.allDefaults set).lookup "event" = none := by
    cases kind with
    | ref =>
      by_cases h : set.get? "event" = some "pr" <;>
        simp [allDefaults, defaults, h, List.lookup_cons]
    | _ => simp [allDefaults, defaults, List.lookup_cons]
  rw [complete_eq, Dictionary.get?_insertAllIfNew, hnone, Option.or_none]

lemma RuleKind.allDefaults_congr {kind : RuleKind} {set set' : Dictionary String}
    (h : set.get? "event" = set'.get? "event") :
    kind.allDefaults set = kind.allDefaults set' := by
  cases kind with
  | ref => simp only [allDefaults, defaults, h]
  | _ => rfl

/-- An attribute has the value that was set, or else the one that its kind fills in, which may be
asked for afterwards. -/
lemma RuleKind.get?_complete (kind : RuleKind) (set : Dictionary String) (key : String) :
    (kind.complete set).get? key =
      (set.get? key).or ((kind.allDefaults (kind.complete set)).lookup key) := by
  rw [allDefaults_congr (kind.get?_event_complete set), complete_eq,
    Dictionary.get?_insertAllIfNew]

/-- **Where nothing is left out nothing is filled in.** -/
theorem RuleKind.complete_complete (kind : RuleKind) (set : Dictionary String) :
    kind.complete (kind.complete set) = kind.complete set := by
  have hevent := kind.get?_event_complete set
  rw [kind.complete_eq (kind.complete set), allDefaults_congr hevent]
  refine Dictionary.insertAllIfNew_of_forall_mem_keys fun e he => ?_
  exact Dictionary.mem_keys_insertAllIfNew.2 (Or.inl (List.mem_map_of_mem he))

/-- The keys that are filled in are words of small letters, and the values are trimmed and have no
line feed. -/
lemma RuleKind.allDefaults_plain (kind : RuleKind) (set : Dictionary String) :
    ∀ pair ∈ kind.allDefaults set, pair.1.toList.all Char.isLower = true ∧
      trim pair.2.toList = pair.2.toList ∧ '\n' ∉ pair.2.toList ∧ pair.1 ≠ "type" := by
  have hplain : ∀ k ∈ RuleKind.all, ∀ pair ∈ allDefaults .empty k,
      pair.1.toList.all Char.isLower = true ∧
        trim pair.2.toList = pair.2.toList ∧ '\n' ∉ pair.2.toList ∧ pair.1 ≠ "type" := by
    decide +kernel
  cases kind with
  | ref =>
    -- the only kind for which it matters what is set
    by_cases h : set.get? "event" = some "pr"
    · rw [allDefaults, defaults, if_pos h]
      decide +kernel
    · rw [allDefaults, defaults, if_neg h]
      exact hplain .ref (by decide)
  | version dialect => exact hplain (.version .semver) (by decide)
  | schedule => exact hplain .schedule (by decide)
  | matching => exact hplain .matching (by decide)
  | edge => exact hplain .edge (by decide)
  | raw => exact hplain .raw (by decide)
  | sha => exact hplain .sha (by decide)

/-- What is filled in is settled. -/
lemma RuleKind.settled_of_mem_allDefaults {kind : RuleKind} {set : Dictionary String} :
    ∀ pair ∈ kind.allDefaults set, Attribute.Settled pair := by
  refine fun pair hpair => ?_
  obtain ⟨hlower, hvalue, -, htype⟩ := kind.allDefaults_plain set pair hpair
  exact ⟨Attribute.settledKey_of_isLower hlower, hvalue, htype⟩

/-! ## Attributes that are asked for

The directive is only there for the messages of failures. -/

/-- A failure that is about a directive, with another directive in its place. -/
def Failure.about (directive : String) : Failure → Failure
  | unterminatedQuote _ => .unterminatedQuote directive
  | unknownTagType value _ => .unknownTagType value directive
  | missingAttribute name _ => .missingAttribute name directive
  | invalidAttribute name _ => .invalidAttribute name directive
  | flavor _ fault => .flavor directive fault
  | image _ fault => .image directive fault
  | failure => failure

lemma required_about {attributes : Dictionary String} {name : String}
    (directive directive' : String) :
    required directive' attributes name =
      (required directive attributes name).mapError (.about directive') := by
  rw [required, required]
  cases attributes.get? name <;> rfl

lemma validated_about {α : Type} {name : String} {read : Option α}
    (directive directive' : String) :
    validated directive' name read =
      (validated directive name read).mapError (.about directive') := by
  cases read <;> rfl

lemma required_eq_ok_iff {directive name value : String} {attributes : Dictionary String} :
    required directive attributes name = .ok value ↔ attributes.get? name = some value := by
  rw [required]
  cases attributes.get? name <;> simp

lemma validated_eq_ok_iff {α : Type} {directive name : String} {read : Option α} {value : α} :
    validated directive name read = .ok value ↔ read = some value := by
  cases read <;> simp [validated]

section

variable [Pattern.Engine]

/-! ## Stages of reading -/

/-- The stages of reading a rule: the fields of the directive, what they say, and the attributes
that make the rule and its priority. -/
structure TagRule.Stages (directive : String) (fields : List String) (entries : List RuleEntry)
    (r : TagRule) : Prop where
  record : Directive.fields directive = .ok fields
  readAll : RuleEntry.readAll directive fields = .ok entries
  attributes : r.attributes =
    (kindOf entries).complete (Dictionary.ofEntries (entries.filterMap RuleEntry.attr?))
  rule : Rule.ofAttributes directive r.attributes (kindOf entries) = .ok r.rule
  priority : ∃ text, required directive r.attributes "priority" = .ok text ∧
    validated directive "priority" (Numeral.readSigned? (trim text.toList)) = .ok r.priority

/-- **A rule that was read went through all stages.** -/
theorem TagRule.stages_of_parse {directive : String} {r : TagRule}
    (h : TagRule.parse directive = .ok r) :
    ∃ fields entries, r.Stages directive fields entries := by
  obtain ⟨fields, hfields, h⟩ := bind_eq_ok.1 h
  obtain ⟨entries, hentries, h⟩ := bind_eq_ok.1 h
  obtain ⟨rule, hrule, h⟩ := bind_eq_ok.1 h
  obtain ⟨text, htext, h⟩ := bind_eq_ok.1 h
  obtain ⟨priority, hpriority, h⟩ := bind_eq_ok.1 h
  obtain rfl := Except.ok.inj h
  exact ⟨fields, entries, hfields, hentries, rfl, hrule, text, htext, hpriority⟩

/-- **Where the attributes of a rule that was read come from**: each is read from a field or filled
in. -/
theorem TagRule.exists_of_mem_attributes {directive : String} {r : TagRule}
    (h : TagRule.parse directive = .ok r) : ∀ pair ∈ r.attributes.entries,
      (∃ fields, Directive.fields directive = .ok fields ∧ ∃ field ∈ fields, ∃ leading,
        RuleEntry.read directive leading field = .ok (.attr pair.1 pair.2)) ∨
      ∃ kind set, pair ∈ RuleKind.allDefaults set kind := by
  obtain ⟨fields, entries, hstages⟩ := stages_of_parse h
  rw [hstages.attributes, RuleKind.complete_eq]
  refine Dictionary.forall_insertAllIfNew ?_ fun pair hpair => Or.inr ⟨_, _, hpair⟩
  refine Dictionary.forall_foldl_insert (by simp [Dictionary.empty]) fun pair hpair => Or.inl ?_
  exact ⟨fields, hstages.record, RuleEntry.exists_of_readAll hstages.readAll hpair⟩

/-! ## The rule itself -/

/-- A pattern is refused as a regular expression, or for a letter behind it. -/
lemma Pattern.compile_eq_error {pattern : String} {failure : Failure}
    (h : compile pattern = .error failure) :
    failure = .pattern pattern ∨ failure = .invalidAttribute "pattern" pattern := by
  rw [compile] at h
  split at h
  · -- the whole text is an expression
    dsimp only at h
    split at h
    · simp at h
    · exact Or.inl (Except.error.inj h).symm
  · split at h
    · dsimp only at h
      split at h
      · simp at h
      · exact Or.inl (Except.error.inj h).symm
    · exact Or.inr (Except.error.inj h).symm

lemma Pattern.Matcher.ofPattern_eq_error {pattern : String} {failure : Failure}
    (h : ofPattern pattern = .error failure) : compile pattern = .error failure := by
  rw [ofPattern] at h
  split at h
  · simp at h
  · next hcompile => rwa [← Except.error.inj h]

lemma readMatcher_about {pattern : String} (directive directive' : String) :
    readMatcher directive' pattern =
      (readMatcher directive pattern).mapError (.about directive') := by
  rw [readMatcher, readMatcher]
  cases h : Pattern.Matcher.ofPattern pattern with
  | ok matcher => rfl
  | error failure =>
    rcases Pattern.compile_eq_error (Pattern.Matcher.ofPattern_eq_error h) with rfl | rfl <;> rfl

/-- **Whatever the directive, the same rule is made of attributes**, or they are refused for the
same reason. -/
theorem Rule.ofAttributes_about {attributes : Dictionary String} {kind : RuleKind}
    (directive directive' : String) :
    ofAttributes directive' attributes kind =
      (ofAttributes directive attributes kind).mapError (.about directive') := by
  cases kind <;>
    simp only [ofAttributes, mapError_bind, mapError_ok, required_about directive directive',
      validated_about directive directive', readMatcher_about directive directive']

lemma pattern_of_readMatcher {directive pattern : String} {matcher : Pattern.Matcher}
    (h : readMatcher directive pattern = .ok matcher) : matcher.pattern = pattern := by
  rw [readMatcher, Pattern.Matcher.ofPattern] at h
  split at h
  · obtain rfl := Except.ok.inj h
    rfl
  · simp [Except.mapError] at h

/-- Whether a rule has what its attributes say, each of them under its name. -/
def Rule.Reads (attributes : Dictionary String) : Rule → Prop
  | schedule pattern => attributes.get? "pattern" = some pattern
  | version _ pattern value =>
    attributes.get? "pattern" = some pattern ∧ attributes.get? "value" = some value
  | matching matcher group value =>
    attributes.get? "pattern" = some matcher.pattern ∧
      (∃ text, attributes.get? "group" = some text ∧
        Numeral.readUnsigned? (trim text.toList) = some group) ∧
      attributes.get? "value" = some value
  | edge branch => attributes.get? "branch" = some branch
  | ref event =>
    ∃ text, attributes.get? "event" = some text ∧ RefEvent.ofName? text = some event
  | raw value => attributes.get? "value" = some value
  | sha format =>
    ∃ text, attributes.get? "format" = some text ∧ ShaFormat.ofName? text = some format

/-- **The rule that attributes make** is of the kind that was asked for, and has what they say. -/
theorem Rule.reads_of_ofAttributes {directive : String} {attributes : Dictionary String}
    {kind : RuleKind} {rule : Rule}
    (h : Rule.ofAttributes directive attributes kind = .ok rule) :
    rule.kind = kind ∧ rule.Reads attributes := by
  cases kind with
  | schedule =>
    simp only [ofAttributes, bind_eq_ok, required_eq_ok_iff] at h
    obtain ⟨pattern, hpattern, h⟩ := h
    obtain rfl := Except.ok.inj h
    exact ⟨rfl, hpattern⟩
  | version dialect =>
    simp only [ofAttributes, bind_eq_ok, required_eq_ok_iff] at h
    obtain ⟨pattern, hpattern, value, hvalue, h⟩ := h
    obtain rfl := Except.ok.inj h
    exact ⟨rfl, hpattern, hvalue⟩
  | matching =>
    simp only [ofAttributes, bind_eq_ok, required_eq_ok_iff, validated_eq_ok_iff] at h
    obtain ⟨pattern, hpattern, matcher, hmatcher, text, htext, group, hgroup, value, hvalue, h⟩ := h
    obtain rfl := Except.ok.inj h
    obtain rfl := pattern_of_readMatcher hmatcher
    exact ⟨rfl, hpattern, ⟨text, htext, hgroup⟩, hvalue⟩
  | edge =>
    simp only [ofAttributes, bind_eq_ok, required_eq_ok_iff] at h
    obtain ⟨branch, hbranch, h⟩ := h
    obtain rfl := Except.ok.inj h
    exact ⟨rfl, hbranch⟩
  | ref =>
    simp only [ofAttributes, bind_eq_ok, required_eq_ok_iff, validated_eq_ok_iff] at h
    obtain ⟨text, htext, event, hevent, h⟩ := h
    obtain rfl := Except.ok.inj h
    exact ⟨rfl, text, htext, hevent⟩
  | raw =>
    simp only [ofAttributes, bind_eq_ok, required_eq_ok_iff] at h
    obtain ⟨value, hvalue, h⟩ := h
    obtain rfl := Except.ok.inj h
    exact ⟨rfl, hvalue⟩
  | sha =>
    simp only [ofAttributes, bind_eq_ok, required_eq_ok_iff, validated_eq_ok_iff] at h
    obtain ⟨text, htext, format, hformat, h⟩ := h
    obtain rfl := Except.ok.inj h
    exact ⟨rfl, text, htext, hformat⟩

/-- The texts that a rule keeps, under the names of the attributes that they are taken from. -/
def Rule.texts : Rule → List (String × String)
  | schedule pattern => [("pattern", pattern)]
  | version _ pattern value => [("pattern", pattern), ("value", value)]
  | matching matcher _ value => [("pattern", matcher.pattern), ("value", value)]
  | edge branch => [("branch", branch)]
  | ref _ => []
  | raw value => [("value", value)]
  | sha _ => []

/-- **A rule keeps the texts of its attributes as they are.** -/
theorem Rule.get?_of_mem_texts {directive : String} {attributes : Dictionary String}
    {kind : RuleKind} {rule : Rule}
    (h : Rule.ofAttributes directive attributes kind = .ok rule) :
    ∀ pair ∈ rule.texts, attributes.get? pair.1 = some pair.2 := by
  have hreads := (reads_of_ofAttributes h).2
  cases rule with
  | schedule pattern => exact List.forall_mem_singleton.2 hreads
  | version dialect pattern value =>
    exact List.forall_mem_cons.2 ⟨hreads.1, List.forall_mem_singleton.2 hreads.2⟩
  | matching matcher group value =>
    exact List.forall_mem_cons.2 ⟨hreads.1, List.forall_mem_singleton.2 hreads.2.2⟩
  | edge branch => exact List.forall_mem_singleton.2 hreads
  | ref event => simp [texts]
  | raw value => exact List.forall_mem_singleton.2 hreads
  | sha format => simp [texts]

/-! ## The round trip -/

/-- The fields of a rule that is written out are read as its kind and its attributes. -/
lemma TagRule.readAll_fields {r : TagRule}
    (h : ∀ pair ∈ r.attributes.entries, Attribute.Settled pair) (directive : String) :
    RuleEntry.readAll directive r.fields =
      .ok (.kind r.rule.kind :: r.attributes.entries.map fun pair => .attr pair.1 pair.2) := by
  have hkind : RuleEntry.read directive (!(r.attributes.entries.map
      fun pair => pair.1 ++ "=" ++ pair.2).isEmpty) ("type=" ++ r.rule.kind.name) =
      .ok (.kind r.rule.kind) := by
    rw [show "type=" = "type" ++ "=" from rfl]
    refine RuleEntry.Says.read_eq (.kind ?_)
    exact Directive.pair?_of_settled (Attribute.settledKey_of_isLower (by decide))
      r.rule.kind.name_plain.1
  have hothers : (r.attributes.entries.map fun pair => pair.1 ++ "=" ++ pair.2).mapM
      (RuleEntry.read directive false) =
      .ok (r.attributes.entries.map fun pair => .attr pair.1 pair.2) := by
    refine mapM_map_eq_ok fun pair hpair => ?_
    have hsettled := h pair hpair
    refine RuleEntry.Says.read_eq (.pair ?_ hsettled.not_type)
    exact Directive.pair?_of_settled hsettled.key hsettled.value
  rw [fields, RuleEntry.readAll, hkind, hothers]
  rfl

/-- No field of a rule that is written out is blank: each has an equals sign. -/
lemma TagRule.fields_text (r : TagRule) : Directive.fields r.text = .ok r.fields := by
  refine Directive.fields_ofFields_of_equals ?_
  simp only [fields, List.forall_mem_cons, List.forall_mem_map]
  exact ⟨by simp, fun pair _ => by simp⟩

/-- What is read from the entries of a rule that is written out: its kind, and its attributes. -/
lemma TagRule.ofEntries_attributes {directive : String} {kind : RuleKind}
    {attributes : Dictionary String} (h : kind.complete attributes = attributes) :
    TagRule.ofEntries directive
        (.kind kind :: attributes.entries.map fun pair => .attr pair.1 pair.2) = (do
      let rule ← Rule.ofAttributes directive attributes kind
      let priority ← validated directive "priority"
        (Numeral.readSigned? (trim (← required directive attributes "priority").toList))
      .ok ⟨rule, priority, attributes⟩) := by
  have hnone : (attributes.entries.map fun pair => RuleEntry.attr pair.1 pair.2).filterMap
      RuleEntry.kind? = [] := by
    simp [List.filterMap_eq_nil_iff, RuleEntry.kind?]
  have hkind : kindOf (.kind kind :: attributes.entries.map fun pair => .attr pair.1 pair.2) =
      kind := by
    rw [kindOf, List.filterMap_cons, hnone]
    rfl
  have hattributes : (RuleEntry.kind kind :: attributes.entries.map
      fun pair => RuleEntry.attr pair.1 pair.2).filterMap RuleEntry.attr? = attributes.entries := by
    simp [List.filterMap_cons, RuleEntry.attr?, List.filterMap_map, Function.comp_def]
  rw [ofEntries, hkind, hattributes, Dictionary.ofEntries_entries, h]

/-- What holds of every rule that was read: its attributes are settled, none is left out, and they
make the rule and its priority. -/
structure TagRule.Settled (r : TagRule) : Prop where
  attributes : ∀ pair ∈ r.attributes.entries, Attribute.Settled pair
  complete : r.rule.kind.complete r.attributes = r.attributes
  rule : ∀ directive, Rule.ofAttributes directive r.attributes r.rule.kind = .ok r.rule
  priority : ∃ text, ∀ directive, required directive r.attributes "priority" = .ok text ∧
    validated directive "priority" (Numeral.readSigned? (trim text.toList)) = .ok r.priority

/-- **Every rule that was read is settled.** -/
theorem TagRule.settled_of_parse {directive : String} {r : TagRule}
    (h : TagRule.parse directive = .ok r) : r.Settled := by
  have hattributes : ∀ pair ∈ r.attributes.entries, Attribute.Settled pair := by
    intro pair hpair
    rcases exists_of_mem_attributes h pair hpair with ⟨_, _, _, _, _, hread⟩ | ⟨kind, set, hmem⟩
    · exact RuleEntry.settled_of_read hread
    · exact RuleKind.settled_of_mem_allDefaults pair hmem
  obtain ⟨fields, entries, hstages⟩ := stages_of_parse h
  obtain ⟨text, htext, hpriority⟩ := hstages.priority
  have hkind : r.rule.kind = kindOf entries := (Rule.reads_of_ofAttributes hstages.rule).1
  refine ⟨hattributes, ?_, fun directive' => ?_, text, fun directive' => ?_⟩
  · rw [hkind, hstages.attributes]
    exact RuleKind.complete_complete _ _
  · rw [hkind, Rule.ofAttributes_about directive directive', hstages.rule]
    rfl
  · exact ⟨required_eq_ok_iff.2 (required_eq_ok_iff.1 htext),
      validated_eq_ok_iff.2 (validated_eq_ok_iff.1 hpriority)⟩

/-- A rule that was read has what its attributes say. -/
lemma TagRule.Settled.reads {r : TagRule} (h : r.Settled) : r.rule.Reads r.attributes :=
  (Rule.reads_of_ofAttributes (h.rule "")).2

/-- The event of a rule about refs is the one that its attribute names. -/
lemma TagRule.Settled.exists_event {r : TagRule} (h : r.Settled) {event : RefEvent}
    (hrule : r.rule = .ref event) :
    ∃ text, r.attributes.get? "event" = some text ∧ RefEvent.ofName? text = some event := by
  have hreads := h.reads
  rwa [hrule] at hreads

/-- The texts of a rule that was read are trimmed: they are values of attributes. -/
lemma TagRule.Settled.trim_text {r : TagRule} (h : r.Settled) {pair : String × String}
    (hpair : pair ∈ r.rule.texts) : trim pair.2.toList = pair.2.toList := by
  have hget := Rule.get?_of_mem_texts (h.rule "") pair hpair
  exact (h.attributes _ (Dictionary.mem_entries_of_get? hget)).value

/-- The pattern of a rule that was read is trimmed. -/
lemma TagRule.Settled.trim_pattern {r : TagRule} (h : r.Settled) {dialect : Dialect}
    {pattern value : String} (hrule : r.rule = .version dialect pattern value) :
    trim pattern.toList = pattern.toList := by
  have hmem : ("pattern", pattern) ∈ r.rule.texts := by
    rw [hrule]
    exact List.mem_cons_self
  exact h.trim_text hmem

/-- A settled rule is read back from its text. -/
lemma TagRule.Settled.parse_eq_ok {r : TagRule} (h : r.Settled) : TagRule.parse r.text = .ok r := by
  obtain ⟨text, hpriority⟩ := h.priority
  rw [TagRule.parse, fields_text]
  show (RuleEntry.readAll r.text r.fields >>= ofEntries r.text) = .ok r
  rw [readAll_fields h.attributes r.text]
  refine (ofEntries_attributes h.complete).trans ?_
  rw [h.rule]
  simp only [bind, Except.bind, (hpriority r.text).1, (hpriority r.text).2]

/-- **A rule that was read and is written out is read back**: the same rule, the same priority and
the same attributes in the same order.  So the text of a rule that was read is its own reading
written out. -/
theorem TagRule.parse_text {directive : String} {r : TagRule}
    (h : TagRule.parse directive = .ok r) :
    TagRule.parse r.text = .ok r ∧ (TagRule.parse r.text).map TagRule.text = .ok r.text := by
  have hparse := (settled_of_parse h).parse_eq_ok
  exact ⟨hparse, by rw [hparse]; rfl⟩

end

open Builtin in
set_option maxRecDepth 4000 in
/-- A value with quotes and commas in it, a key that is longer in lower case, and an attribute whose
key and value are empty. -/
theorem TagRule.parse_text_of_quoted :
    ∃ r, TagRule.parse "\"Value = say \"\"hi\"\", a=b \",İD=x,=,priority= 7 " = .ok r ∧
      TagRule.parse r.text = .ok r ∧
      (TagRule.parse r.text).map TagRule.text = .ok r.text := by
  obtain ⟨r, h⟩ : ∃ r,
      TagRule.parse "\"Value = say \"\"hi\"\", a=b \",İD=x,=,priority= 7 " = .ok r :=
    ⟨⟨.raw "say \"hi\", a=b", 7, .ofEntries [("value", "say \"hi\", a=b"), ("i\u0307d", "x"),
      ("", ""), ("priority", "7"), ("enable", "true")]⟩, by cbv⟩
  exact ⟨r, h, TagRule.parse_text h⟩

end ImageTags
