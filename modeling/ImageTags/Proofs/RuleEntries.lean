import Mathlib.Tactic.Lemma
import ImageTags.Proofs.Records
import ImageTags.Rule.Reader

/-!
# What one field of a rule says

A field says the kind of the rule or sets an attribute.  A pair with the key `type` is for the kind,
and so is the bare name of a kind in front of other fields; any other bare word is the value of the
rule.  Only a kind that there is not is refused.

* `RuleKind.ofName?_eq_some_iff` — kinds are found by their names.
* `RuleEntry.Says` — what a field says.
* **`RuleEntry.read_eq_ok_iff`**, **`RuleEntry.read_eq_error_iff`** — it is read as that, or refused.
-/

namespace ImageTags

open Text

/-! ## Names of kinds -/

/-- The name of a kind is trimmed, and it names that kind. -/
lemma RuleKind.name_plain (kind : RuleKind) :
    trim kind.name.toList = kind.name.toList ∧ RuleKind.ofName? kind.name = some kind := by
  have h : ∀ k ∈ RuleKind.all, trim k.name.toList = k.name.toList ∧
      RuleKind.ofName? k.name = some k := by
    decide +kernel
  cases kind with
  | version dialect => cases dialect <;> exact h _ (by decide)
  | _ => exact h _ (by decide)

lemma RuleKind.ofName?_eq_some_iff {name : String} {kind : RuleKind} :
    ofName? name = some kind ↔ kind.name = name := by
  constructor
  · intro h
    simpa using List.find?_some h
  · rintro rfl
    exact kind.name_plain.2

lemma RuleKind.ofName?_eq_none_iff {name : String} :
    ofName? name = none ↔ ∀ kind : RuleKind, kind.name ≠ name := by
  simp [Option.eq_none_iff_forall_ne_some, ofName?_eq_some_iff]

/-! ## One field -/

namespace RuleEntry

/-- What a field of a rule says; `leading` means that it is the first of several. -/
inductive Says (leading : Bool) (field : String) : RuleEntry → Prop
  /-- The key `type` is for the kind. -/
  | kind {kind : RuleKind} (h : Directive.pair? field = some ("type", kind.name)) :
      Says leading field (.kind kind)
  /-- Any other key is that of an attribute. -/
  | pair {key value : String} (h : Directive.pair? field = some (key, value))
      (hkey : key ≠ "type") : Says leading field (.attr key value)
  /-- In front of other fields the bare name of a kind stands for the kind. -/
  | shorthand {kind : RuleKind} (h : '=' ∉ field.toList) (hleading : leading = true)
      (hname : kind.name = trimmed field) : Says leading field (.kind kind)
  /-- Any other bare word is the value of the rule. -/
  | word (h : '=' ∉ field.toList)
      (hword : leading = true → ∀ kind : RuleKind, kind.name ≠ trimmed field) :
      Says leading field (.attr "value" (trimmed field))

variable {directive field : String} {leading : Bool} {entry : RuleEntry}

lemma Says.read_eq (h : Says leading field entry) : read directive leading field = .ok entry := by
  rw [read]
  cases h with
  | kind h =>
    rw [h]
    simp only [if_true, RuleKind.ofName?_eq_some_iff.2 rfl]
  | pair h hkey =>
    rw [h]
    exact if_neg hkey
  | shorthand h hleading hname =>
    rw [Directive.pair?_eq_none_iff.2 h, hleading]
    simp only [ofWord, RuleKind.ofName?_eq_some_iff.2 hname]
  | word h hword =>
    rw [Directive.pair?_eq_none_iff.2 h]
    cases leading with
    | false => rfl
    | true => simp only [ofWord, RuleKind.ofName?_eq_none_iff.2 (hword rfl)]

lemma read_of_unknown {value : String} (h : Directive.pair? field = some ("type", value))
    (hvalue : ∀ kind : RuleKind, kind.name ≠ value) :
    read directive leading field = .error (.unknownTagType value directive) := by
  rw [read, h]
  simp only [if_true, RuleKind.ofName?_eq_none_iff.2 hvalue]

/-- A field says something, unless it is for a kind that there is not. -/
lemma exists_says_or_unknown (leading : Bool) (field : String) :
    (∃ entry, Says leading field entry) ∨
      ∃ value, Directive.pair? field = some ("type", value) ∧
        ∀ kind : RuleKind, kind.name ≠ value := by
  cases hpair : Directive.pair? field with
  | none =>
    have hword := Directive.pair?_eq_none_iff.1 hpair
    by_cases hkind : leading = true ∧ ∃ kind : RuleKind, kind.name = trimmed field
    · obtain ⟨hleading, kind, hname⟩ := hkind
      exact Or.inl ⟨_, .shorthand hword hleading hname⟩
    · exact Or.inl ⟨_, .word hword fun hleading kind hname => hkind ⟨hleading, kind, hname⟩⟩
  | some pair =>
    obtain ⟨key, value⟩ := pair
    by_cases hkey : key = "type"
    · subst hkey
      by_cases hkind : ∃ kind : RuleKind, kind.name = value
      · obtain ⟨kind, rfl⟩ := hkind
        exact Or.inl ⟨_, .kind hpair⟩
      · exact Or.inr ⟨value, rfl, not_exists.1 hkind⟩
    · exact Or.inl ⟨_, .pair hpair hkey⟩

/-- **A field is read as what it says.** -/
theorem read_eq_ok_iff : read directive leading field = .ok entry ↔ Says leading field entry := by
  constructor
  · intro hread
    rcases exists_says_or_unknown leading field with ⟨entry', hsaid⟩ | ⟨value, hpair, hvalue⟩
    · rw [hsaid.read_eq] at hread
      exact Except.ok.inj hread ▸ hsaid
    · rw [read_of_unknown hpair hvalue] at hread
      simp at hread
  · exact Says.read_eq

/-- A field is refused for a kind that there is not. -/
theorem read_eq_error_iff {failure : Failure} : read directive leading field = .error failure ↔
    ∃ value, Directive.pair? field = some ("type", value) ∧
      (∀ kind : RuleKind, kind.name ≠ value) ∧ failure = .unknownTagType value directive := by
  constructor
  · intro hread
    rcases exists_says_or_unknown leading field with ⟨entry, hsaid⟩ | ⟨value, hpair, hvalue⟩
    · rw [hsaid.read_eq] at hread
      simp at hread
    · rw [read_of_unknown hpair hvalue] at hread
      exact ⟨value, hpair, hvalue, (Except.error.inj hread).symm⟩
  · rintro ⟨value, hpair, hvalue, rfl⟩
    exact read_of_unknown hpair hvalue

end RuleEntry

end ImageTags
