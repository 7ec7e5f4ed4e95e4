import Mathlib
import ImageTags.Proofs.RuleText

/-!
# What the fields of a rule say

Each field of a rule says its kind or sets an attribute.  Of the fields that say the kind the last
one counts, and of those that set one attribute the last one of them; what no field says is filled
in by the kind.  The rule is kept twice, as attributes and as a `Rule` that is made of them, and the
two do not differ.

* `RuleEntry.SaysAt` — what the field at a place says, and **`RuleEntry.getElem?_of_readAll`** that
  it is read as that.
* `RuleEntry.LastSays`, `RuleEntry.NeverSays` — the field that counts.
* `get?_ofEntries_eq_some_iff` — attributes that are set have the value of that field.
* `TagRule.ReadFrom` — where the parts of a rule are from, and that its two forms agree.
* **`TagRule.readFrom_of_parse`** — a rule that was read has what its fields say and nothing else.
-/

namespace ImageTags

open Text

/-! ## All fields -/

namespace RuleEntry

/-- What the field at a place says. -/
def SaysAt (fields : List String) (i : Nat) (entry : RuleEntry) : Prop :=
  ∃ field, fields[i]? = some field ∧ Says (i = 0 ∧ 1 < fields.length) field entry

/-- **Fields are read place by place.** -/
theorem getElem?_of_readAll {directive : String} {fields : List String} {entries : List RuleEntry}
    (h : readAll directive fields = .ok entries) {i : Nat} {entry : RuleEntry} :
    entries[i]? = some entry ↔ SaysAt fields i entry := by
  cases fields with
  | nil =>
    obtain rfl := Except.ok.inj h
    simp [SaysAt]
  | cons first others =>
    obtain ⟨head, hhead, h⟩ := bind_eq_ok.1 h
    obtain ⟨tail, htail, h⟩ := bind_eq_ok.1 h
    obtain rfl := Except.ok.inj h
    cases i with
    | zero =>
      have hfirst : read directive (0 = 0 ∧ 1 < (first :: others).length) first = .ok head := by
        rw [← hhead]
        cases others <;> rfl
      rw [List.getElem?_cons_zero, Option.some.injEq]
      constructor
      · rintro rfl
        exact ⟨first, rfl, read_eq_ok_iff.1 hfirst⟩
      · rintro ⟨field, hfield, hsaid⟩
        obtain rfl := Option.some.inj hfield
        exact Except.ok.inj (hfirst.symm.trans hsaid.read_eq)
    | succ i =>
      -- only the first field is leading
      simp [SaysAt, getElem?_of_mapM htail, read_eq_ok_iff]

/-! ## The field that counts -/

/-- Whether a field says `said a`, and none behind it says that of anything. -/
def LastSays {α : Type} (fields : List String) (said : α → RuleEntry) (a : α) : Prop :=
  ∃ i, SaysAt fields i (said a) ∧ ∀ j, i < j → ∀ b, ¬ SaysAt fields j (said b)

/-- Whether no field says `said a` for any `a`. -/
def NeverSays {α : Type} (fields : List String) (said : α → RuleEntry) : Prop :=
  ∀ i a, ¬ SaysAt fields i (said a)

end RuleEntry

section Last

variable {α β : Type} {f : α → Option β} {as : List α}

lemma getLast?_filterMap_eq_none_iff :
    (as.filterMap f).getLast? = none ↔ ∀ i : Nat, (as[i]?).bind f = none := by
  rw [List.getLast?_eq_none_iff, List.filterMap_eq_nil_iff]
  constructor
  · intro h i
    cases hi : as[i]? with
    | none => rfl
    | some a => exact h a (List.mem_of_getElem? hi)
  · intro h a ha
    obtain ⟨i, hi⟩ := List.mem_iff_getElem?.1 ha
    simpa [hi] using h i

/-- The last value that entries of a list have is that of the entry behind which no other has
one. -/
lemma getLast?_filterMap_eq_some_iff {b : β} :
    (as.filterMap f).getLast? = some b ↔
      ∃ i : Nat, (as[i]?).bind f = some b ∧ ∀ j, i < j → (as[j]?).bind f = none := by
  induction as with
  | nil => simp
  | cons a as ih =>
    have hlast : ((a :: as).filterMap f).getLast? = ((as.filterMap f).getLast?).or (f a) := by
      cases ha : f a <;> simp [ha, List.getLast?_cons]
    rw [hlast, Option.or_eq_some_iff, ih, getLast?_filterMap_eq_none_iff]
    constructor
    · rintro (⟨i, hi, hbehind⟩ | ⟨hnone, ha⟩)
      · refine ⟨i + 1, hi, fun j hj => ?_⟩
        obtain ⟨j, rfl⟩ := Nat.exists_eq_add_one_of_ne_zero (by omega : j ≠ 0)
        exact hbehind j (by omega)
      · refine ⟨0, ha, fun j hj => ?_⟩
        obtain ⟨j, rfl⟩ := Nat.exists_eq_add_one_of_ne_zero (by omega : j ≠ 0)
        exact hnone j
    · rintro ⟨i, hi, hbehind⟩
      cases i with
      | zero => exact Or.inr ⟨fun i => hbehind (i + 1) (by omega), hi⟩
      | succ i => exact Or.inl ⟨i, hi, fun j hj => hbehind (j + 1) (by omega)⟩

end Last

namespace RuleEntry

variable {directive : String} {fields : List String} {entries : List RuleEntry}
variable {α : Type} {said : α → RuleEntry} {f : RuleEntry → Option α}

lemma bind_getElem?_eq_some_iff (h : readAll directive fields = .ok entries)
    (hf : ∀ entry a, f entry = some a ↔ entry = said a) {i : Nat} {a : α} :
    (entries[i]?).bind f = some a ↔ SaysAt fields i (said a) := by
  simp only [Option.bind_eq_some_iff, hf, exists_eq_right, getElem?_of_readAll h]

lemma bind_getElem?_eq_none_iff (h : readAll directive fields = .ok entries)
    (hf : ∀ entry a, f entry = some a ↔ entry = said a) {i : Nat} :
    (entries[i]?).bind f = none ↔ ∀ a, ¬ SaysAt fields i (said a) := by
  simp only [Option.eq_none_iff_forall_ne_some, ne_eq, bind_getElem?_eq_some_iff h hf]

/-- The last of the entries of a sort is what the last of the fields says that say such a thing. -/
lemma getLast?_eq_some_iff (h : readAll directive fields = .ok entries)
    (hf : ∀ entry a, f entry = some a ↔ entry = said a) {a : α} :
    (entries.filterMap f).getLast? = some a ↔ LastSays fields said a := by
  simp only [getLast?_filterMap_eq_some_iff, bind_getElem?_eq_some_iff h hf,
    bind_getElem?_eq_none_iff h hf, LastSays]

lemma getLast?_eq_none_iff (h : readAll directive fields = .ok entries)
    (hf : ∀ entry a, f entry = some a ↔ entry = said a) :
    (entries.filterMap f).getLast? = none ↔ NeverSays fields said := by
  simp only [getLast?_filterMap_eq_none_iff, bind_getElem?_eq_none_iff h hf, NeverSays]

/-- The kind of a rule is what the last field says of it. -/
lemma kindOf_cases (h : readAll directive fields = .ok entries) :
    LastSays fields .kind (kindOf entries) ∨
      NeverSays fields .kind ∧ kindOf entries = .raw := by
  have hkind : ∀ (entry : RuleEntry) (k : RuleKind), entry.kind? = some k ↔ entry = .kind k := by
    rintro (kind | ⟨key, value⟩) k <;> simp [kind?]
  rw [kindOf]
  cases hlast : (entries.filterMap kind?).getLast? with
  | some k => exact Or.inl ((getLast?_eq_some_iff h hkind).1 hlast)
  | none => exact Or.inr ⟨(getLast?_eq_none_iff h hkind).1 hlast, rfl⟩

/-- The value that an entry sets for an attribute. -/
def valueOf? (key : String) : RuleEntry → Option String
  | kind _ => none
  | attr k value => if k = key then some value else none

lemma valueOf?_eq_some_iff (key : String) (entry : RuleEntry) (value : String) :
    entry.valueOf? key = some value ↔ entry = .attr key value := by
  cases entry <;> simp [valueOf?]

lemma map_filter_attr? (entries : List RuleEntry) (key : String) :
    ((entries.filterMap attr?).filter (·.1 = key)).map Prod.snd =
      entries.filterMap (valueOf? key) := by
  induction entries with
  | nil => rfl
  | cons entry entries ih =>
    cases entry with
    | kind kind =>
      rw [List.filterMap_cons_none rfl, List.filterMap_cons_none rfl]
      exact ih
    | attr k value =>
      by_cases hk : k = key
      · simpa [attr?, valueOf?, hk] using ih
      · simpa [attr?, valueOf?, hk] using ih

lemma get?_ofEntries (entries : List RuleEntry) (key : String) :
    (Dictionary.ofEntries (entries.filterMap attr?)).get? key =
      (entries.filterMap (valueOf? key)).getLast? := by
  have hget := Dictionary.get?_insertAll .empty (entries.filterMap attr?) key
  rw [← List.getLast?_map, map_filter_attr?] at hget
  exact hget.trans Option.or_none

/-- An attribute has the value that the last field sets of those that set it. -/
lemma get?_ofEntries_eq_some_iff (h : readAll directive fields = .ok entries)
    {key value : String} :
    (Dictionary.ofEntries (entries.filterMap attr?)).get? key = some value ↔
      LastSays fields (.attr key) value := by
  rw [get?_ofEntries, getLast?_eq_some_iff h (valueOf?_eq_some_iff key)]

lemma get?_ofEntries_eq_none_iff (h : readAll directive fields = .ok entries) {key : String} :
    (Dictionary.ofEntries (entries.filterMap attr?)).get? key = none ↔
      NeverSays fields (.attr key) := by
  rw [get?_ofEntries, getLast?_eq_none_iff h (valueOf?_eq_some_iff key)]

end RuleEntry

/-! ## The rule -/

/-- A settled key is trimmed and in lower case. -/
lemma Attribute.SettledKey.plain {key : String} (h : Attribute.SettledKey key) :
    trim key.toList = key.toList ∧ lowerCase key.toList = key.toList := by
  have hlower : lowerCase key.toList = key.toList := by
    rw [← h.lower, lowerCase_lowerCase]
  refine ⟨?_, hlower⟩
  rw [← h.lower]
  exact trim_eq_self (trimmed_lowerCase (trimmed_trim _))

namespace TagRule

open RuleEntry

/-- The value of an attribute of a rule comes from the last field that sets it, or else from its
kind. -/
lemma get?_complete_eq_some_iff {directive : String} {fields : List String}
    {entries : List RuleEntry} (h : readAll directive fields = .ok entries) (kind : RuleKind)
    {attributes : Dictionary String}
    (hattributes : kind.complete (Dictionary.ofEntries (entries.filterMap attr?)) = attributes)
    {key value : String} :
    attributes.get? key = some value ↔ LastSays fields (.attr key) value ∨
      NeverSays fields (.attr key) ∧ (kind.allDefaults attributes).lookup key = some value := by
  have hget := kind.get?_complete (Dictionary.ofEntries (entries.filterMap attr?)) key
  rw [hattributes] at hget
  rw [hget, Option.or_eq_some_iff, get?_ofEntries_eq_some_iff h, get?_ofEntries_eq_none_iff h]

section

variable [Pattern.Engine]

/-- What a rule is if it was read from given fields: how its attributes came about, and what they
have to do with the rule. -/
structure ReadFrom (fields : List String) (r : TagRule) : Prop where
  /-- The last field that says the kind counts. -/
  kind : LastSays fields .kind r.rule.kind ∨ NeverSays fields .kind ∧ r.rule.kind = .raw
  /-- So does the last field that sets an attribute, and the kind fills in what none sets. -/
  value : ∀ key value, r.attributes.get? key = some value ↔
    LastSays fields (.attr key) value ∨ NeverSays fields (.attr key) ∧
      (r.rule.kind.allDefaults r.attributes).lookup key = some value
  keys_nodup : r.attributes.keys.Nodup
  keys_plain : ∀ key ∈ r.attributes.keys,
    trim key.toList = key.toList ∧ lowerCase key.toList = key.toList ∧ key ≠ "type"
  values_trimmed : ∀ pair ∈ r.attributes.entries, trim pair.2.toList = pair.2.toList
  /-- The parts of the rule are the attributes of the same names. -/
  reads : r.rule.Reads r.attributes
  enable : "enable" ∈ r.attributes.keys
  priority : ∃ text, r.attributes.get? "priority" = some text ∧
    Numeral.readSigned? text.toList = some r.priority
  front : r.rule.kind = .sha ∨ r.rule = .ref .pullRequest → "prefix" ∈ r.attributes.keys

variable {r : TagRule}

/-- A rule that was read has all attributes that its kind fills in. -/
lemma Settled.mem_keys (h : r.Settled) {key : String}
    (hkey : key ∈ (r.rule.kind.allDefaults r.attributes).map Prod.fst) :
    key ∈ r.attributes.keys := by
  rw [← h.complete, RuleKind.complete_eq]
  exact Dictionary.mem_keys_insertAllIfNew.2 (Or.inl hkey)

/-- The text of the priority is trimmed already when it is read. -/
lemma Settled.exists_priority (h : r.Settled) : ∃ text, r.attributes.get? "priority" = some text ∧
    Numeral.readSigned? text.toList = some r.priority := by
  obtain ⟨text, hpriority⟩ := h.priority
  obtain ⟨htext, hread⟩ := hpriority ""
  have hget := required_eq_ok_iff.1 htext
  refine ⟨text, hget, ?_⟩
  have htrim := (h.attributes _ (Dictionary.mem_entries_of_get? hget)).value
  rw [← validated_eq_ok_iff.1 hread, htrim]

/-- The kinds that put something in front of what they yield by default have it as an attribute. -/
lemma Settled.mem_prefix (h : r.Settled)
    (hkind : r.rule.kind = .sha ∨ r.rule = .ref .pullRequest) : "prefix" ∈ r.attributes.keys := by
  refine h.mem_keys ?_
  rcases hkind with hkind | hrule
  · rw [hkind]
    simp [RuleKind.allDefaults, RuleKind.defaults]
  · obtain ⟨text, htext, hevent⟩ := h.exists_event hrule
    have hname : text = "pr" := by
      unfold RefEvent.ofName? at hevent
      split at hevent <;> simp_all
    rw [hrule]
    simp [RuleKind.allDefaults, RuleKind.defaults, Rule.kind, htext, hname]

/-- **A rule that was read has what its fields say, and nothing else.** -/
theorem readFrom_of_parse {directive : String} (h : TagRule.parse directive = .ok r) :
    ∃ fields, Directive.fields directive = .ok fields ∧ r.ReadFrom fields := by
  have hsettled := settled_of_parse h
  obtain ⟨fields, entries, hstages⟩ := stages_of_parse h
  have hkind : r.rule.kind = kindOf entries := (Rule.reads_of_ofAttributes hstages.rule).1
  refine ⟨fields, hstages.record, ?_⟩
  constructor
  case kind =>
    rw [hkind]
    exact kindOf_cases hstages.readAll
  case value =>
    intro key value
    rw [hkind]
    exact get?_complete_eq_some_iff hstages.readAll _ hstages.attributes.symm
  case keys_nodup => exact Dictionary.keys_nodup _
  case keys_plain =>
    intro key hkey
    obtain ⟨pair, hpair, rfl⟩ := List.mem_map.1 hkey
    have hplain := (hsettled.attributes pair hpair).key.plain
    exact ⟨hplain.1, hplain.2, (hsettled.attributes pair hpair).not_type⟩
  case values_trimmed =>
    intro pair hpair
    exact (hsettled.attributes pair hpair).value
  case reads => exact hsettled.reads
  case enable => exact hsettled.mem_keys (by simp [RuleKind.allDefaults])
  case priority => exact hsettled.exists_priority
  case front => exact hsettled.mem_prefix

end

open Builtin in
set_option maxRecDepth 4000 in
/-- A kind in shorthand, attributes that are set twice, once by a bare word, and a signed priority.
-/
theorem readFrom_of_repeated :
    ∃ r, TagRule.parse "sha,Format=long,x,format=short,\"a,b\",priority=+7" = .ok r ∧
      ∃ fields, Directive.fields "sha,Format=long,x,format=short,\"a,b\",priority=+7" = .ok fields ∧
        r.ReadFrom fields := by
  let r : TagRule :=
    ⟨.sha .short, 7, .ofEntries [("format", "short"), ("value", "a,b"), ("priority", "+7"),
      ("prefix", "sha-"), ("enable", "true")]⟩
  have hparse : TagRule.parse "sha,Format=long,x,format=short,\"a,b\",priority=+7" = .ok r := by
    cbv
  exact ⟨r, hparse, readFrom_of_parse hparse⟩

end TagRule

end ImageTags
