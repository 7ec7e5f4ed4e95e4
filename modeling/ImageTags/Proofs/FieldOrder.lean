import ImageTags.Proofs.RuleFields

/-!
# The order of the fields of a rule

The first field of a rule is read in another way than the others, and so is the one that says the
kind.  Neither matters where every field is a pair of a key and a value and no key occurs twice:
the fields in another order are then the same rule, or they are refused for the same reason.

* `Dictionary.sameEntries_of_perm` — the same entries in another order.
* `RuleEntry.alike_mapM_read` — the fields say the same in another order.
* `TagRule.alike_ofEntries` — and the same rule is made of what they say.
* **`TagRule.parse_of_perm`** — a rule that is written with its fields in another order.
-/

namespace ImageTags

/-! ## Dictionaries -/

/-- Dictionaries with the same entries in another order count as the same. -/
lemma Dictionary.sameEntries_of_perm {d e : Dictionary String}
    (h : d.entries.Perm e.entries) : d.sameEntries e = true := by
  rw [sameEntries, Bool.and_eq_true, beq_iff_eq]
  refine ⟨h.length_eq, List.all_eq_true.2 fun pair hpair => ?_⟩
  have hget : e.get? pair.1 = some pair.2 := mem_entries_iff.1 (h.mem_iff.1 hpair)
  simp [hget]

/-! ## Keys -/

/-- The key of a field that is a pair of a key and a value. -/
def Directive.key? (field : String) : Option String :=
  (pair? field).map Prod.fst

namespace RuleEntry

/-- The key of the fields that say an entry. -/
def key : RuleEntry → String
  | kind _ => "type"
  | attr key _ => key

variable {directive field : String} {leading : Bool} {entry : RuleEntry}

lemma Says.key?_eq (h : Says leading field entry) (hequals : '=' ∈ field.toList) :
    Directive.key? field = some entry.key := by
  cases h with
  | kind h => rw [Directive.key?, h]; rfl
  | pair h hkey => rw [Directive.key?, h]; rfl
  | shorthand h hleading hname => exact absurd hequals h
  | word h hword => exact absurd hequals h

/-- The first field is read as the others are if it is a pair of a key and a value. -/
lemma read_leading (hequals : '=' ∈ field.toList) :
    read directive leading field = read directive false field := by
  cases hpair : Directive.pair? field with
  | none => exact absurd hequals (Directive.pair?_eq_none_iff.1 hpair)
  | some pair => rw [read, read, hpair]

/-- The directive is only there for the message of a failure. -/
lemma read_about (directive directive' : String) :
    read directive' leading field =
      (read directive leading field).mapError (.about directive') := by
  rcases exists_says_or_unknown leading field with ⟨entry, hsaid⟩ | ⟨value, hpair, hvalue⟩
  · rw [hsaid.read_eq, hsaid.read_eq, mapError_ok]
  · rw [read_of_unknown hpair hvalue, read_of_unknown hpair hvalue]
    rfl

variable {fields fields' : List String} {entries entries' : List RuleEntry}

lemma readAll_of_equals (hequals : ∀ field ∈ fields, '=' ∈ field.toList) :
    readAll directive fields = fields.mapM (read directive false) := by
  cases fields with
  | nil => rfl
  | cons field fields =>
    rw [readAll, read_leading (hequals field List.mem_cons_self), List.mapM_cons]
    rfl

/-- Entries have the keys of the fields that they are read from. -/
lemma map_key_of_mapM (hequals : ∀ field ∈ fields, '=' ∈ field.toList)
    (h : fields.mapM (read directive false) = .ok entries) :
    fields.map Directive.key? = entries.map fun entry => some entry.key := by
  induction fields generalizing entries with
  | nil =>
    obtain rfl := Except.ok.inj h
    rfl
  | cons field fields ih =>
    obtain ⟨hfield, hfields⟩ := List.forall_mem_cons.1 hequals
    obtain ⟨entry, hentry, entries, hentries, rfl⟩ := mapM_cons_eq_ok.1 h
    rw [List.map_cons, List.map_cons, Says.key?_eq (read_eq_ok_iff.1 hentry) hfield,
      ih hfields hentries]

/-- Fields with different keys say the same in another order.  Only the one that is for the kind can
be refused. -/
lemma alike_mapM_read (hperm : fields.Perm fields')
    (hkeys : (fields.map Directive.key?).Nodup) :
    Alike List.Perm (fields.mapM (read directive false)) (fields'.mapM (read directive false)) := by
  refine alike_mapM_of_perm hperm fun a ha b hb e e' hea heb => ?_
  have htype : ∀ {field : String} {failure : Failure},
      read directive false field = .error failure → Directive.key? field = some "type" := by
    intro field failure hfail
    obtain ⟨value, hpair, -⟩ := read_eq_error_iff.1 hfail
    rw [Directive.key?, hpair]
    rfl
  obtain rfl : a = b := List.inj_on_of_nodup_map hkeys ha hb ((htype hea).trans (htype heb).symm)
  exact Except.error.inj (hea.symm.trans heb)

/-- The entries of a sort keep their keys. -/
lemma sublist_keys {α : Type} {f : RuleEntry → Option α} {g : α → String}
    (hf : ∀ entry a, f entry = some a → g a = entry.key) (entries : List RuleEntry) :
    ((entries.filterMap f).map g).Sublist (entries.map key) := by
  induction entries with
  | nil => exact .slnil
  | cons entry entries ih =>
    cases hentry : f entry with
    | none =>
      rw [List.filterMap_cons_none hentry]
      exact ih.cons _
    | some a =>
      rw [List.filterMap_cons_some hentry, List.map_cons, hf entry a hentry]
      exact ih.cons_cons _

/-- The order does not matter to the kind: at most one of the entries is a kind. -/
lemma kindOf_of_perm (hperm : entries.Perm entries') (hkeys : (entries.map key).Nodup) :
    kindOf entries = kindOf entries' := by
  have hsub := sublist_keys (f := kind?) (g := fun _ => "type")
    (fun entry k h => by
      cases entry with
      | kind kind => rfl
      | attr k value => simp [kind?] at h) entries
  have hlength : (entries.filterMap kind?).length ≤ 1 := by
    have hnodup := hkeys.sublist hsub
    rwa [List.map_const', List.nodup_replicate] at hnodup
  have hkinds : (entries.filterMap kind?).Perm (entries'.filterMap kind?) := hperm.filterMap _
  rw [kindOf, kindOf]
  cases hl : entries.filterMap kind? with
  | nil =>
    rw [hl] at hkinds
    rw [List.nil_perm.1 hkinds]
  | cons k ks =>
    obtain rfl : ks = [] := by
      rw [hl, List.length_cons] at hlength
      exact List.length_eq_zero_iff.1 (by omega)
    rw [hl] at hkinds
    rw [List.singleton_perm.1 hkinds]

/-- The attributes that the entries set are the same ones in another order. -/
lemma perm_ofEntries (hperm : entries.Perm entries') (hkeys : (entries.map key).Nodup) :
    (Dictionary.ofEntries (entries.filterMap attr?)).entries.Perm
      (Dictionary.ofEntries (entries'.filterMap attr?)).entries := by
  have hsub : ∀ entries : List RuleEntry,
      ((entries.filterMap attr?).map Prod.fst).Sublist (entries.map key) :=
    sublist_keys fun entry pair h => by
      cases entry with
      | kind kind => simp [attr?] at h
      | attr k value =>
        obtain rfl := Option.some.inj h
        rfl
  have hkeys' : (entries'.map key).Nodup := (hperm.map key).nodup_iff.1 hkeys
  rw [Dictionary.entries_ofEntries (hkeys.sublist (hsub entries)),
    Dictionary.entries_ofEntries (hkeys'.sublist (hsub entries'))]
  exact hperm.filterMap _

end RuleEntry

/-! ## Rules -/

/-- The same attributes are filled in, whatever the order of those that are set. -/
lemma RuleKind.perm_complete (kind : RuleKind) {set set' : Dictionary String}
    (h : set.entries.Perm set'.entries) :
    (kind.complete set).entries.Perm (kind.complete set').entries := by
  rw [complete_eq, complete_eq, allDefaults_congr (Dictionary.get?_of_perm h "event")]
  exact Dictionary.perm_insertAllIfNew h _

lemma required_of_perm {directive : String} {attributes attributes' : Dictionary String}
    (h : attributes.entries.Perm attributes'.entries) :
    required directive attributes = required directive attributes' := by
  funext name
  rw [required, required, Dictionary.get?_of_perm h]

section

variable [Pattern.Engine]

/-- The order of the attributes does not matter to the rule that is made of them. -/
lemma Rule.ofAttributes_of_perm {directive : String} {attributes attributes' : Dictionary String}
    (h : attributes.entries.Perm attributes'.entries) (kind : RuleKind) :
    ofAttributes directive attributes kind = ofAttributes directive attributes' kind := by
  unfold ofAttributes
  rw [required_of_perm h]

namespace TagRule

open RuleEntry

variable {directive : String} {fields fields' : List String} {entries entries' : List RuleEntry}

/-- **The same rule is made of what the fields say**, in whatever order they say it. -/
theorem alike_ofEntries (hperm : entries.Perm entries') (hkeys : (entries.map key).Nodup) :
    Alike (fun r s => r.agrees s = true) (ofEntries directive entries)
      (ofEntries directive entries') := by
  have hattributes := (kindOf entries').perm_complete (perm_ofEntries hperm hkeys)
  rw [ofEntries, ofEntries, kindOf_of_perm hperm hkeys, Rule.ofAttributes_of_perm hattributes,
    required_of_perm hattributes]
  refine .bind fun rule _ => .bind fun text _ => .bind fun priority _ => .ok ?_
  simp [agrees, Dictionary.sameEntries_of_perm hattributes]

/-- To make a rule of entries the directive is only there for the messages of failures as well. -/
lemma ofEntries_about (directive directive' : String) (entries : List RuleEntry) :
    ofEntries directive' entries =
      (ofEntries directive entries).mapError (.about directive') := by
  simp only [ofEntries, mapError_bind, mapError_ok, Rule.ofAttributes_about directive directive',
    required_about directive directive', validated_about directive directive']

/-- A rule that is written as pairs of keys and values is read from all of them in the same way. -/
lemma parse_ofFields (hequals : ∀ field ∈ fields, '=' ∈ field.toList) :
    parse (Directive.ofFields fields) =
      fields.mapM (read (Directive.ofFields fields) false) >>=
        ofEntries (Directive.ofFields fields) := by
  rw [← readAll_of_equals hequals, parse, Directive.fields_ofFields_of_equals hequals]
  rfl

/-- The directive that the fields are written in may be replaced in the messages of failures. -/
lemma parse_ofFields_about (directive : String) (hequals : ∀ field ∈ fields, '=' ∈ field.toList) :
    parse (Directive.ofFields fields) =
      (fields.mapM (read directive false) >>= ofEntries directive).mapError
        (.about (Directive.ofFields fields)) := by
  simp only [parse_ofFields hequals, mapError_bind, mapError_mapM, ← read_about directive,
    ← ofEntries_about directive]

/-- **A rule that is written with its fields in another order is the same rule, or it is refused
for the same reason.**  The fields are pairs of a key and a value, and the keys are different. -/
theorem parse_of_perm (hperm : fields.Perm fields')
    (hequals : ∀ field ∈ fields, '=' ∈ field.toList)
    (hkeys : (fields.map Directive.key?).Nodup) :
    (∃ r r', parse (Directive.ofFields fields) = .ok r ∧
      parse (Directive.ofFields fields') = .ok r' ∧ r.agrees r' = true) ∨
    ∃ failure, parse (Directive.ofFields fields) = .error failure ∧
      parse (Directive.ofFields fields') =
        .error (failure.about (Directive.ofFields fields')) := by
  have hequals' : ∀ field ∈ fields', '=' ∈ field.toList :=
    fun field hfield => hequals field (hperm.mem_iff.2 hfield)
  -- both are read as if they were about the first directive
  have halike : Alike (fun r s => r.agrees s = true) (parse (Directive.ofFields fields))
      (fields'.mapM (read (Directive.ofFields fields) false) >>=
        ofEntries (Directive.ofFields fields)) := by
    rw [parse_ofFields hequals]
    refine (alike_mapM_read hperm hkeys).bind_alike fun entries entries' hread hentries => ?_
    refine alike_ofEntries hentries (.of_map some ?_)
    rw [List.map_map]
    exact map_key_of_mapM hequals hread ▸ hkeys
  rw [parse_ofFields_about (Directive.ofFields fields) hequals']
  rcases halike.ok_or_error with ⟨r, r', hr, hr', hagrees⟩ | ⟨failure, hfailure, hfailure'⟩
  · left
    exact ⟨r, r', hr, by rw [hr', mapError_ok], hagrees⟩
  · right
    exact ⟨failure, hfailure, by rw [hfailure', mapError_error]⟩

end TagRule

end

open Builtin in
/-- A rule with its value in front and one with its value behind, and a key in capitals. -/
theorem TagRule.parse_of_perm_of_value :
    (∃ r r', TagRule.parse (Directive.ofFields ["value=a,b", "type=raw", " Priority = 7"]) = .ok r ∧
      TagRule.parse (Directive.ofFields ["type=raw", " Priority = 7", "value=a,b"]) = .ok r' ∧
      r.agrees r' = true) ∨
    ∃ failure, TagRule.parse (Directive.ofFields ["value=a,b", "type=raw", " Priority = 7"]) =
        .error failure ∧
      TagRule.parse (Directive.ofFields ["type=raw", " Priority = 7", "value=a,b"]) =
        .error (failure.about (Directive.ofFields ["type=raw", " Priority = 7", "value=a,b"])) :=
  TagRule.parse_of_perm (by decide) (by decide) (by decide +kernel)

end ImageTags
