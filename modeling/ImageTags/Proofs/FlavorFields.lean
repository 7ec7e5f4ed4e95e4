import Mathlib
import ImageTags.Flavor
import ImageTags.Proofs.RecordLayout
import ImageTags.Proofs.Steps

/-!
# What the fields of a flavor say

The directives of a flavor are accepted if each of their fields is a pair with a known key and, for
the two keys that switch something, a known value.  Of the fields with one key the last one counts,
whatever directive it stands in.  A field `onlatest` is about the prefix or the suffix that was set
before it, but only in its own directive.

* `Accepted`, `Refuses` — which directives are accepted, and how others fail.
* `lastValue?`, `boundValues` — the fields that count, by where they stand.
* `Follows.step`, `Follows.applySettings` — what one field does, and what a directive does.
* **`parse_by_fields`** — which flavors are read, and which directive a failure is about.
-/

namespace ImageTags

open Text

lemma LatestMode.ofName?_name (mode : LatestMode) : ofName? mode.name = some mode := by
  cases mode <;> rfl

lemma LatestMode.name_injective : Function.Injective name := by
  intro mode mode' h
  rw [← Option.some_inj, ← ofName?_name, h, ofName?_name]

namespace Flavor

/-! ## Accepted fields -/

/-- Whether a key and a value can be a field of a flavor. -/
structure Admitted (pair : String × String) : Prop where
  key : pair.1 ∈ ["latest", "prefix", "suffix", "onlatest", "labelprefix"]
  latest : pair.1 = "latest" → pair.2 ∈ ["auto", "true", "false"]
  onLatest : pair.1 = "onlatest" → pair.2 ∈ ["true", "false"]

/-- Whether a text can be a field of a flavor. -/
def AdmittedField (field : String) : Prop :=
  '=' ∈ field.toList ∧ ∀ pair ∈ Directive.pair? field, Admitted pair

/-- Whether a directive can belong to a flavor. -/
def Accepted (directive : String) : Prop :=
  ∃ fields, Directive.fields directive = .ok fields ∧ ∀ field ∈ fields, AdmittedField field

/-- What is wrong with a field. -/
inductive FieldFault (field : String) : FlavorFault → Prop
  | notAPair (h : '=' ∉ field.toList) : FieldFault field (.notAPair (trimmed field))
  | unknownKey {key value : String} (h : Directive.pair? field = some (key, value))
      (hkey : key ∉ ["latest", "prefix", "suffix", "onlatest", "labelprefix"]) :
      FieldFault field (.unknownKey key)
  | badLatest {value : String} (h : Directive.pair? field = some ("latest", value))
      (hvalue : value ∉ ["auto", "true", "false"]) : FieldFault field (.badLatest value)
  | badOnLatest {value : String} (h : Directive.pair? field = some ("onlatest", value))
      (hvalue : value ∉ ["true", "false"]) : FieldFault field (.badOnLatest value)

/-- How a directive fails: a quote is left open in it, or something is wrong with its first field
that cannot belong to a flavor. -/
inductive Refuses (directive : String) : Failure → Prop
  | unreadable (h : Record.LeavesQuoteOpen directive.toList) :
      Refuses directive (.unterminatedQuote directive)
  | field {before after : List String} {field : String} {fault : FlavorFault}
      (h : Directive.fields directive = .ok (before ++ field :: after))
      (hbefore : ∀ field ∈ before, AdmittedField field) (hfault : FieldFault field fault) :
      Refuses directive (.flavor directive fault)

/-! ## The fields that count -/

/-- The fields of a directive as pairs of a key and a value. -/
def pairs (directive : String) : List (String × String) :=
  match Directive.fields directive with
  | .ok fields => fields.filterMap Directive.pair?
  | .error _ => []

/-- The value of the last pair with a key. -/
def lastValue? (key : String) (pairs : List (String × String)) : Option String :=
  (pairs.filter fun pair => pair.1 = key).getLast?.map Prod.snd

/-- The side that a key sets. -/
def Side.ofKey? : String → Option Side
  | "prefix" => some .front
  | "suffix" => some .back
  | _ => none

/-- The side that is set nearest to the end of some pairs. -/
def nearestSide? (before : List (String × String)) : Option Side :=
  (before.filterMap fun pair => Side.ofKey? pair.1).getLast?

/-- The values of the pairs `onlatest` of a directive in front of which a side is the nearest to be
set. -/
def boundValues (side : Side) (pairs : List (String × String)) : List String :=
  pairs.zipIdx.filterMap fun (pair, i) =>
    if pair.1 = "onlatest" ∧ nearestSide? (pairs.take i) = some side then some pair.2 else none

/-- Whether a flavor is what the pairs of some directives say. -/
structure Follows (directives : List (List (String × String))) (f : Flavor) : Prop where
  latest : f.latest.name = (lastValue? "latest" directives.flatten).getD "auto"
  front : f.front = (lastValue? "prefix" directives.flatten).getD ""
  back : f.back = (lastValue? "suffix" directives.flatten).getD ""
  labelStart : f.labelStart = lastValue? "labelprefix" directives.flatten
  frontOnLatest : toString f.frontOnLatest =
    (directives.flatMap (boundValues .front)).getLast?.getD "false"
  backOnLatest : toString f.backOnLatest =
    (directives.flatMap (boundValues .back)).getLast?.getD "false"

/-! ## One more pair -/

lemma lastValue?_concat (key : String) (pairs : List (String × String)) (pair : String × String) :
    lastValue? key (pairs ++ [pair]) =
      if pair.1 = key then some pair.2 else lastValue? key pairs := by
  by_cases h : pair.1 = key
  · simp [lastValue?, List.filter_append, h]
  · simp [lastValue?, List.filter_append, h]

@[simp] lemma nearestSide?_nil : nearestSide? [] = none := rfl

lemma nearestSide?_concat (pairs : List (String × String)) (pair : String × String) :
    nearestSide? (pairs ++ [pair]) = (Side.ofKey? pair.1).or (nearestSide? pairs) := by
  cases h : Side.ofKey? pair.1 with
  | none => simp [nearestSide?, h]
  | some side => simp [nearestSide?, h]

lemma boundValues_concat (side : Side) (pairs : List (String × String)) (pair : String × String) :
    boundValues side (pairs ++ [pair]) = boundValues side pairs ++
      if pair.1 = "onlatest" ∧ nearestSide? pairs = some side then [pair.2] else [] := by
  have hfirst : pairs.zipIdx.filterMap (fun (p, i) =>
      if p.1 = "onlatest" ∧ nearestSide? ((pairs ++ [pair]).take i) = some side then some p.2
      else none) = boundValues side pairs := by
    refine List.filterMap_congr fun x hx => ?_
    have hlt := List.snd_lt_of_mem_zipIdx hx
    simp only [List.take_append_of_le_length (show x.2 ≤ pairs.length by omega)]
  rw [boundValues, List.zipIdx_append, List.filterMap_append, hfirst]
  congr 1
  by_cases h : pair.1 = "onlatest" ∧ nearestSide? pairs = some side
  · simp [h]
  · simp [h]

/-! ## What a directive does -/

/-- What a pair says. -/
inductive Says : String × String → Setting → Prop
  | latest {value : String} {mode : LatestMode} (h : mode.name = value) :
      Says ("latest", value) (.latest mode)
  | front (value : String) : Says ("prefix", value) (.front value)
  | back (value : String) : Says ("suffix", value) (.back value)
  | onLatest (on : Bool) : Says ("onlatest", toString on) (.onLatest on)
  | labelStart (value : String) : Says ("labelprefix", value) (.labelStart value)

variable {done : List (List (String × String))} {before pairs : List (String × String)}
variable {pair : String × String} {f : Flavor} {setting : Setting} {settings : List Setting}

lemma flatMap_boundValues_concat (side : Side) :
    (done ++ [before ++ [pair]]).flatMap (boundValues side) =
      (done ++ [before]).flatMap (boundValues side) ++
        if pair.1 = "onlatest" ∧ nearestSide? before = some side then [pair.2] else [] := by
  simp [boundValues_concat]

lemma flatten_concat :
    (done ++ [before ++ [pair]]).flatten = (done ++ [before]).flatten ++ [pair] := by
  simp

/-- With one more pair a flavor has to change where the pair says something, and nowhere else. -/
lemma Follows.concat_iff (h : Follows (done ++ [before]) f) {f' : Flavor} :
    Follows (done ++ [before ++ [pair]]) f' ↔
      f'.latest.name = (if pair.1 = "latest" then pair.2 else f.latest.name) ∧
      f'.front = (if pair.1 = "prefix" then pair.2 else f.front) ∧
      f'.back = (if pair.1 = "suffix" then pair.2 else f.back) ∧
      f'.labelStart = (if pair.1 = "labelprefix" then some pair.2 else f.labelStart) ∧
      toString f'.frontOnLatest =
        (if pair.1 = "onlatest" ∧ nearestSide? before = some .front then pair.2
        else toString f.frontOnLatest) ∧
      toString f'.backOnLatest =
        (if pair.1 = "onlatest" ∧ nearestSide? before = some .back then pair.2
        else toString f.backOnLatest) := by
  rw [h.latest, h.front, h.back, h.labelStart, h.frontOnLatest, h.backOnLatest]
  have hvalue (key otherwise : String) :
      (lastValue? key (done ++ [before ++ [pair]]).flatten).getD otherwise =
        if pair.1 = key then pair.2
        else (lastValue? key (done ++ [before]).flatten).getD otherwise := by
    rw [flatten_concat, lastValue?_concat]
    split <;> rfl
  have hbound (side : Side) :
      ((done ++ [before ++ [pair]]).flatMap (boundValues side)).getLast?.getD "false" =
        if pair.1 = "onlatest" ∧ nearestSide? before = some side then pair.2
        else ((done ++ [before]).flatMap (boundValues side)).getLast?.getD "false" := by
    rw [flatMap_boundValues_concat]
    split
    · rw [List.getLast?_concat, Option.getD_some]
    · rw [List.append_nil]
  rw [← hvalue, ← hvalue, ← hvalue, ← hbound, ← hbound, ← lastValue?_concat, ← flatten_concat]
  exact ⟨fun h => ⟨h.latest, h.front, h.back, h.labelStart, h.frontOnLatest, h.backOnLatest⟩,
    fun ⟨h₁, h₂, h₃, h₄, h₅, h₆⟩ => ⟨h₁, h₂, h₃, h₄, h₅, h₆⟩⟩

/-- **One more pair.**  The flavor follows it too, and goes on from there. -/
theorem Follows.step (h : Follows (done ++ [before]) f) (hsaid : Says pair setting) :
    ∃ f', Follows (done ++ [before ++ [pair]]) f' ∧ ∀ settings,
      applySettings (nearestSide? before) f (setting :: settings) =
        applySettings (nearestSide? (before ++ [pair])) f' settings := by
  rw [nearestSide?_concat]
  cases hsaid with
  | latest hmode => exact ⟨_, h.concat_iff.2 (by simp [hmode]), fun _ => rfl⟩
  | front value => exact ⟨_, h.concat_iff.2 (by simp), fun _ => rfl⟩
  | back value => exact ⟨_, h.concat_iff.2 (by simp), fun _ => rfl⟩
  | labelStart value => exact ⟨_, h.concat_iff.2 (by simp), fun _ => rfl⟩
  | onLatest on =>
    -- Which side it is about was settled by the pairs before it in its directive.
    cases hside : nearestSide? before with
    | none => exact ⟨f, h.concat_iff.2 (by simp [hside]), fun _ => rfl⟩
    | some side =>
      cases side with
      | front => exact ⟨_, h.concat_iff.2 (by simp [hside]), fun _ => rfl⟩
      | back => exact ⟨_, h.concat_iff.2 (by simp [hside]), fun _ => rfl⟩

/-- **A directive.**  What its pairs say is applied one after the other. -/
theorem Follows.applySettings (h : Follows (done ++ [before]) f)
    (hsaid : List.Forall₂ Says pairs settings) :
    Follows (done ++ [before ++ pairs]) (applySettings (nearestSide? before) f settings) := by
  induction hsaid generalizing before f with
  | nil => rwa [List.append_nil]
  | @cons pair setting pairs settings hpair _ ih =>
    obtain ⟨f', hf', hstep⟩ := h.step hpair
    rw [hstep]
    simpa using ih hf'

/-- A directive in front of its first pair says nothing. -/
lemma Follows.concat_nil (h : Follows done f) : Follows (done ++ [[]]) f := by
  have hflatten : (done ++ [[]]).flatten = done.flatten := by simp
  have hbound (side : Side) :
      (done ++ [[]]).flatMap (boundValues side) = done.flatMap (boundValues side) := by
    simp [boundValues]
  constructor <;> simp only [hflatten, hbound]
  exacts [h.latest, h.front, h.back, h.labelStart, h.frontOnLatest, h.backOnLatest]

/-- **The directives of a flavor.** -/
theorem Follows.foldl {said : List (List (String × String))} {directives : List (List Setting)}
    (h : Follows done f) (hsaid : List.Forall₂ (List.Forall₂ Says) said directives) :
    Follows (done ++ said) (directives.foldl (Flavor.applySettings none) f) := by
  induction hsaid generalizing done f with
  | nil => rwa [List.append_nil]
  | @cons pairs settings said directives hpairs _ ih =>
    have hnext := h.concat_nil.applySettings hpairs
    simpa using ih hnext

lemma follows_plain : Follows [] plain := ⟨rfl, rfl, rfl, rfl, rfl, rfl⟩

lemma toString_injective : Function.Injective (toString : Bool → String) := by
  decide

/-- The directives say all of a flavor. -/
lemma Follows.unique {f' : Flavor} (h : Follows done f) (h' : Follows done f') : f = f' := by
  obtain ⟨latest, front, back, frontOnLatest, backOnLatest, labelStart⟩ := f
  obtain ⟨latest', front', back', frontOnLatest', backOnLatest', labelStart'⟩ := f'
  obtain rfl : latest = latest' := LatestMode.name_injective (h.latest.trans h'.latest.symm)
  obtain rfl : front = front' := h.front.trans h'.front.symm
  obtain rfl : back = back' := h.back.trans h'.back.symm
  obtain rfl : labelStart = labelStart' := h.labelStart.trans h'.labelStart.symm
  obtain rfl : frontOnLatest = frontOnLatest' :=
    toString_injective (h.frontOnLatest.trans h'.frontOnLatest.symm)
  obtain rfl : backOnLatest = backOnLatest' :=
    toString_injective (h.backOnLatest.trans h'.backOnLatest.symm)
  rfl

/-! ## Reading -/

lemma admitted_iff_exists_setting : Admitted pair ↔ ∃ setting, Says pair setting := by
  constructor
  · obtain ⟨key, value⟩ := pair
    rintro ⟨hkey, hlatest, honLatest⟩
    simp only [List.mem_cons, List.not_mem_nil, or_false] at hkey hlatest honLatest
    rcases hkey with rfl | rfl | rfl | rfl | rfl
    · rcases hlatest rfl with rfl | rfl | rfl
      · exact ⟨.latest .auto, .latest rfl⟩
      · exact ⟨.latest .always, .latest rfl⟩
      · exact ⟨.latest .never, .latest rfl⟩
    · exact ⟨_, .front value⟩
    · exact ⟨_, .back value⟩
    · rcases honLatest rfl with rfl | rfl
      · exact ⟨_, .onLatest true⟩
      · exact ⟨_, .onLatest false⟩
    · exact ⟨_, .labelStart value⟩
  · rintro ⟨setting, hsaid⟩
    cases hsaid with
    | @latest value mode h =>
      refine ⟨by simp, fun _ => ?_, by simp⟩
      rw [← h]
      cases mode <;> decide
    | front value => exact ⟨by simp, by simp, by simp⟩
    | back value => exact ⟨by simp, by simp, by simp⟩
    | onLatest on => exact ⟨by simp, by simp, by cases on <;> decide⟩
    | labelStart value => exact ⟨by simp, by simp, by simp⟩

/-- What a field says is read. -/
lemma Setting.read_of_said {field : String} (h : Directive.pair? field = some pair)
    (hsaid : Says pair setting) : Setting.read field = .ok setting := by
  rw [Setting.read, h]
  cases hsaid with
  | @latest value mode hmode =>
    simp only [← hmode, LatestMode.ofName?_name]
  | front value => rfl
  | back value => rfl
  | onLatest on => cases on <;> rfl
  | labelStart value => rfl

/-- What is wrong with a field is noticed. -/
lemma Setting.read_of_fault {field : String} {fault : FlavorFault} (h : FieldFault field fault) :
    Setting.read field = .error fault := by
  rw [Setting.read]
  cases h with
  | notAPair h => rw [Directive.pair?_eq_none_iff.2 h]
  | unknownKey h hkey =>
    rw [h]
    simp only [List.mem_cons, List.not_mem_nil, or_false, not_or] at hkey
    simp [hkey]
  | badLatest h hvalue =>
    rw [h]
    simp only [List.mem_cons, List.not_mem_nil, or_false, not_or] at hvalue
    simp [LatestMode.ofName?, hvalue]
  | badOnLatest h hvalue =>
    rw [h]
    simp only [List.mem_cons, List.not_mem_nil, or_false, not_or] at hvalue
    simp [hvalue]

/-- A field says something, or something is wrong with it. -/
lemma exists_says_or_fault (field : String) :
    (∃ pair setting, Directive.pair? field = some pair ∧ Says pair setting) ∨
      ∃ fault, FieldFault field fault := by
  cases hpair : Directive.pair? field with
  | none => exact Or.inr ⟨_, .notAPair (Directive.pair?_eq_none_iff.1 hpair)⟩
  | some pair =>
    obtain ⟨key, value⟩ := pair
    by_cases hkey : key ∈ ["latest", "prefix", "suffix", "onlatest", "labelprefix"]
    · by_cases hlatest : key = "latest" → value ∈ ["auto", "true", "false"]
      · by_cases honLatest : key = "onlatest" → value ∈ ["true", "false"]
        · have hadmitted : Admitted (key, value) := ⟨hkey, hlatest, honLatest⟩
          obtain ⟨setting, hsaid⟩ := admitted_iff_exists_setting.1 hadmitted
          exact Or.inl ⟨(key, value), setting, rfl, hsaid⟩
        · obtain ⟨rfl, hvalue⟩ := Classical.not_imp.1 honLatest
          exact Or.inr ⟨_, .badOnLatest hpair hvalue⟩
      · obtain ⟨rfl, hvalue⟩ := Classical.not_imp.1 hlatest
        exact Or.inr ⟨_, .badLatest hpair hvalue⟩
    · exact Or.inr ⟨_, .unknownKey hpair hkey⟩

/-- A field is read as what its pair says. -/
lemma Setting.read_eq_ok_iff {field : String} :
    Setting.read field = .ok setting ↔
      ∃ pair, Directive.pair? field = some pair ∧ Says pair setting := by
  constructor
  · intro hread
    rcases exists_says_or_fault field with ⟨pair, setting', hpair, hsaid⟩ | ⟨fault, hfault⟩
    · obtain rfl := Except.ok.inj (hread.symm.trans (read_of_said hpair hsaid))
      exact ⟨pair, hpair, hsaid⟩
    · rw [read_of_fault hfault] at hread
      simp at hread
  · rintro ⟨pair, hpair, hsaid⟩
    exact read_of_said hpair hsaid

/-- A field is refused for what is wrong with it. -/
lemma Setting.read_eq_error_iff {field : String} {fault : FlavorFault} :
    Setting.read field = .error fault ↔ FieldFault field fault := by
  constructor
  · intro hread
    rcases exists_says_or_fault field with ⟨pair, setting, hpair, hsaid⟩ | ⟨fault', hfault⟩
    · rw [read_of_said hpair hsaid] at hread
      simp at hread
    · obtain rfl := Except.error.inj (hread.symm.trans (read_of_fault hfault))
      exact hfault
  · exact read_of_fault

/-- The fields that can be read are the admitted ones. -/
lemma Setting.exists_read_iff {field : String} :
    (∃ setting, Setting.read field = .ok setting) ↔ AdmittedField field := by
  have hequals : '=' ∈ field.toList ↔ ∃ pair, Directive.pair? field = some pair := by
    rw [← not_iff_not, ← Directive.pair?_eq_none_iff, ← Option.isSome_iff_exists,
      Option.not_isSome_iff_eq_none]
  rw [AdmittedField, hequals]
  constructor
  · rintro ⟨setting, hread⟩
    obtain ⟨pair, hpair, hsaid⟩ := read_eq_ok_iff.1 hread
    refine ⟨⟨pair, hpair⟩, fun pair' hpair' => ?_⟩
    obtain rfl := Option.some.inj (hpair.symm.trans hpair')
    exact admitted_iff_exists_setting.2 ⟨setting, hsaid⟩
  · rintro ⟨⟨pair, hpair⟩, hadmitted⟩
    obtain ⟨setting, hsaid⟩ := admitted_iff_exists_setting.1 (hadmitted pair hpair)
    exact ⟨setting, read_of_said hpair hsaid⟩

variable {directive : String} {failure : Failure}

/-- The pairs of the fields say what was read. -/
lemma forall₂_says_of_mapM {fields : List String} (h : fields.mapM Setting.read = .ok settings) :
    List.Forall₂ Says (fields.filterMap Directive.pair?) settings := by
  induction fields generalizing settings with
  | nil =>
    obtain rfl := Except.ok.inj h
    exact .nil
  | cons field fields ih =>
    obtain ⟨setting, hread, settings, hrest, rfl⟩ := mapM_cons_eq_ok.1 h
    obtain ⟨pair, hpair, hsaid⟩ := Setting.read_eq_ok_iff.1 hread
    rw [List.filterMap_cons_some hpair]
    exact .cons hsaid (ih hrest)

/-- A directive is read as what its pairs say. -/
lemma forall₂_says_of_readSettings (h : readSettings directive = .ok settings) :
    List.Forall₂ Says (Flavor.pairs directive) settings := by
  obtain ⟨fields, hfields, hread⟩ := bind_eq_ok.1 h
  rw [Flavor.pairs, hfields]
  exact forall₂_says_of_mapM (mapError_eq_ok.1 hread)

lemma exists_readSettings_iff :
    (∃ settings, readSettings directive = .ok settings) ↔ Accepted directive := by
  simp only [readSettings, bind_eq_ok, mapError_eq_ok, Accepted, ← Setting.exists_read_iff,
    ← exists_mapM_eq_ok_iff]
  constructor
  · rintro ⟨settings, fields, hfields, hread⟩
    exact ⟨fields, hfields, settings, hread⟩
  · rintro ⟨fields, hfields, settings, hread⟩
    exact ⟨settings, fields, hfields, hread⟩

lemma readSettings_eq_error_iff :
    readSettings directive = .error failure ↔ Refuses directive failure := by
  rw [readSettings, bind_eq_error]
  constructor
  · rintro (hread | ⟨fields, hfields, hread⟩)
    · obtain ⟨rfl, hopen⟩ := Directive.fields_eq_error_iff.1 hread
      exact .unreadable hopen
    · obtain ⟨fault, hfault, rfl⟩ := mapError_eq_error.1 hread
      obtain ⟨before, field, after, rfl, hbefore, hfield⟩ := mapM_eq_error_iff.1 hfault
      exact .field hfields (fun b hb => Setting.exists_read_iff.1 (hbefore b hb))
        (Setting.read_eq_error_iff.1 hfield)
  · rintro (hopen | ⟨hfields, hbefore, hfault⟩)
    · exact Or.inl (Directive.fields_eq_error_iff.2 ⟨rfl, hopen⟩)
    · refine Or.inr ⟨_, hfields, mapError_eq_error.2 ⟨_, mapM_eq_error_iff.2 ?_, rfl⟩⟩
      exact ⟨_, _, _, rfl, fun b hb => Setting.exists_read_iff.2 (hbefore b hb),
        Setting.read_eq_error_iff.2 hfault⟩

/-- What is read from directives follows their pairs. -/
lemma follows_of_mapM {directives : List String} {read : List (List Setting)}
    (h : directives.mapM readSettings = .ok read) :
    Follows (directives.map Flavor.pairs) (read.foldl (Flavor.applySettings none) plain) := by
  have hsaid : List.Forall₂ (List.Forall₂ Says) (directives.map Flavor.pairs) read := by
    rw [List.forall₂_map_left_iff]
    exact (forall₂_of_mapM h).imp fun _ _ => forall₂_says_of_readSettings
  exact follows_plain.foldl hsaid

/-- **A flavor is read field by field.**  It is read if all its directives are accepted, and then
it is what their pairs say.  Otherwise the failure is that of the first directive that is not
accepted. -/
theorem parse_by_fields (directives : List String) :
    (∀ f, parse directives = .ok f ↔
      (∀ directive ∈ directives, Accepted directive) ∧
        Follows (directives.map Flavor.pairs) f) ∧
    ∀ failure, parse directives = .error failure ↔
      ∃ before directive after, directives = before ++ directive :: after ∧
        (∀ directive ∈ before, Accepted directive) ∧ Refuses directive failure := by
  constructor
  · intro f
    simp only [← exists_readSettings_iff, ← exists_mapM_eq_ok_iff]
    rw [parse, bind_eq_ok]
    constructor
    · rintro ⟨read, hread, hf⟩
      obtain rfl := Except.ok.inj hf
      exact ⟨⟨read, hread⟩, follows_of_mapM hread⟩
    · rintro ⟨⟨read, hread⟩, hf⟩
      exact ⟨read, hread, congrArg Except.ok ((follows_of_mapM hread).unique hf)⟩
  · intro failure
    rw [parse, bind_eq_error]
    simp only [mapM_eq_error_iff, readSettings_eq_error_iff, exists_readSettings_iff]
    simp

-- The prefix was set in another directive, so the second `onlatest` is about nothing.
example : parse ["prefix=v,onlatest=true", "onlatest=false"] =
    .ok { plain with front := "v", frontOnLatest := true } := by cbv

end Flavor

end ImageTags
