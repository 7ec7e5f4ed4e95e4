import Mathlib
import ImageTags.CommandLine.Listing
import ImageTags.Proofs.DirectiveLines
import ImageTags.Proofs.PriorityOrder
import ImageTags.Proofs.RuleText

/-!
# A listing of rules is listed again as it is

The command that lists rules writes each of them out on a line of its own, in the order of their
use.  What it has written is a text of directives itself, and listing that text gives it again.

That a single rule is read back from its text is `TagRule.Settled.parse_eq_ok`.  Here it is shown
that the lines are found again: nothing that was read from one line holds a line feed, and the text
of a rule neither starts nor ends with a blank and does not look like a comment.  And rules that
stand in the order of their use stay in it.

* `TagRule.isLine_text` — the text of a rule stands on a line of its own.
* `TagRule.parseAll_texts` — the rules are read from their texts again.
* **`listRules_listRules`** — the listing is listed again, that of the default rules, too.
-/

namespace ImageTags

open Text

/-! ## No line feed comes in -/

lemma Directive.newline_not_mem_of_pair? {field key value : String}
    (h : pair? field = some (key, value)) (hfeed : '\n' ∉ field.toList) :
    '\n' ∉ key.toList ∧ '\n' ∉ value.toList := by
  obtain ⟨⟨k, v⟩, hsplit, heq⟩ := Option.map_eq_some_iff.1 h
  obtain ⟨rfl, rfl⟩ := Prod.mk.inj heq
  rw [(splitFirst?_eq_some_iff.1 hsplit).1] at hfeed
  simp only [List.mem_append, List.mem_cons, not_or] at hfeed
  simp only [String.toList_ofList]
  refine ⟨fun hmem => hfeed.1 (mem_of_mem_trim ?_), fun hmem => hfeed.2.2 (mem_of_mem_trim hmem)⟩
  exact mem_of_mem_lowerCase (by decide) hmem

lemma RuleEntry.newline_not_mem_of_read {directive field key value : String} {leading : Bool}
    (h : RuleEntry.read directive leading field = .ok (.attr key value))
    (hfeed : '\n' ∉ field.toList) : '\n' ∉ key.toList ∧ '\n' ∉ value.toList := by
  cases RuleEntry.read_eq_ok_iff.1 h with
  | pair hpair htype => exact Directive.newline_not_mem_of_pair? hpair hfeed
  | word hword hkind =>
    refine ⟨by decide, fun hmem => hfeed ?_⟩
    rw [trimmed, String.toList_ofList] at hmem
    exact mem_of_mem_trim hmem

/-- A directive without line feeds has none in its fields. -/
lemma Directive.newline_not_mem_of_fields {directive : String} {fields : List String}
    (h : Directive.fields directive = .ok fields) (hfeed : '\n' ∉ directive.toList) :
    ∀ field ∈ fields, '\n' ∉ field.toList := by
  intro field hfield hmem
  exact hfeed (Directive.mem_of_mem_fields h hfield hmem)

/-! ## Texts without blanks at their ends -/

lemma Attribute.Settled.trimmed_field {pair : String × String} (h : Attribute.Settled pair) :
    Trimmed (pair.1 ++ "=" ++ pair.2).toList := by
  have hkey : Trimmed pair.1.toList := h.key.lower ▸ trimmed_lowerCase (trimmed_trim _)
  have hvalue : Trimmed pair.2.toList := trimmed_of_trim_eq h.value
  have heq : (pair.1 ++ "=" ++ pair.2).toList = pair.1.toList ++ '=' :: pair.2.toList := by simp
  rw [heq]
  exact hkey.append_cons hvalue (by decide)

lemma Record.trimmed_quoteField {field : List Char} (h : Trimmed field) :
    Trimmed (quoteField field) := by
  have hquote : isBlank '"' = false := by decide
  rw [quoteField]
  split
  · refine ⟨by simp [hquote], fun c hc => ?_⟩
    rw [List.getLast?_concat] at hc
    rw [← Option.some.inj hc, hquote]
  · exact h

/-- A record starts with its first field or with a quote. -/
lemma Record.head?_ofFields {field : List Char} {c : Char} (h : field.head? = some c)
    (fields : List (List Char)) :
    ∃ d ∈ (ofFields (field :: fields)).head?, d = '"' ∨ d = c := by
  obtain ⟨cs, rfl⟩ := List.head?_eq_some_iff.1 h
  have hjoin : ∃ rest, ofFields ((c :: cs) :: fields) = quoteField (c :: cs) ++ rest := by
    cases fields with
    | nil => exact ⟨[], by simp [ofFields, joinWith]⟩
    | cons next fields => exact ⟨_, by simp [ofFields, joinWith]; rfl⟩
  obtain ⟨rest, hrest⟩ := hjoin
  rw [hrest, quoteField]
  split
  · exact ⟨'"', by simp, Or.inl rfl⟩
  · exact ⟨c, by simp, Or.inr rfl⟩

/-- The name of a kind is trimmed and has no line feed. -/
lemma RuleKind.field_plain (kind : RuleKind) :
    Trimmed ("type=" ++ kind.name).toList ∧ '\n' ∉ ("type=" ++ kind.name).toList := by
  have hname : Trimmed kind.name.toList := trimmed_of_trim_eq kind.name_plain.1
  have heq : ("type=" ++ kind.name).toList = "type".toList ++ '=' :: kind.name.toList := by simp
  have htype : Trimmed "type".toList := trimmed_of_isLower (by decide)
  refine ⟨heq ▸ htype.append_cons hname (by decide), ?_⟩
  have hall : ∀ k ∈ RuleKind.all, '\n' ∉ ("type=" ++ k.name).toList := by decide
  cases kind with
  | version dialect => cases dialect <;> exact hall _ (by decide)
  | _ => exact hall _ (by decide)

section

variable [Pattern.Engine]

/-- A rule that was read from one line has no line feed in its attributes. -/
lemma TagRule.newline_not_mem_attributes {directive : String} {r : TagRule}
    (h : TagRule.parse directive = .ok r) (hfeed : '\n' ∉ directive.toList) :
    ∀ pair ∈ r.attributes.entries, '\n' ∉ pair.1.toList ∧ '\n' ∉ pair.2.toList := by
  intro pair hpair
  rcases exists_of_mem_attributes h pair hpair with
    ⟨fields, hfields, field, hfield, leading, hread⟩ | ⟨kind, set, hmem⟩
  · have hnone := Directive.newline_not_mem_of_fields hfields hfeed field hfield
    exact RuleEntry.newline_not_mem_of_read hread hnone
  · obtain ⟨hlower, -, hvalue, -⟩ := kind.allDefaults_plain set pair hmem
    refine ⟨fun hkey => ?_, hvalue⟩
    exact absurd (List.all_eq_true.1 hlower '\n' hkey) (by decide)

/-! ## The text of a rule -/

namespace TagRule

variable {directive : String} {directives : List String} {r : TagRule} {rules : List TagRule}

/-- **The text of a rule that was read from one line stands on a line of its own.** -/
theorem isLine_text (h : parse directive = .ok r) (hfeed : '\n' ∉ directive.toList) :
    Directive.IsLine r.text := by
  have hsettled := (settled_of_parse h).attributes
  have hattributes := newline_not_mem_attributes h hfeed
  have hkind := r.rule.kind.field_plain
  have hfields : ∀ field ∈ r.fields, Trimmed field.toList ∧ '\n' ∉ field.toList := by
    refine List.forall_mem_cons.2 ⟨hkind, List.forall_mem_map.2 fun pair hpair => ?_⟩
    refine ⟨(hsettled pair hpair).trimmed_field, ?_⟩
    simpa using hattributes pair hpair
  have htext : r.text.toList = Record.ofFields (r.fields.map String.toList) := by
    rw [text, Directive.ofFields, String.toList_ofList]
  refine ⟨fun hmem => ?_, ?_, ?_⟩
  · rw [htext] at hmem
    rcases Record.mem_ofFields hmem with hcomma | hquote | ⟨field, hfield, hmem⟩
    · exact absurd hcomma (by decide)
    · exact absurd hquote (by decide)
    · obtain ⟨written, hwritten, rfl⟩ := List.mem_map.1 hfield
      exact (hfields written hwritten).2 hmem
  · rw [htext]
    refine trimmed_joinWith (by decide) (List.forall_mem_map.2 (List.forall_mem_map.2 ?_))
    exact fun field hfield => Record.trimmed_quoteField (hfields field hfield).1
  · have hhead : ("type=" ++ r.rule.kind.name).toList.head? = some 't' := by simp
    obtain ⟨c, hc, hstart⟩ := Record.head?_ofFields hhead
      ((r.attributes.entries.map fun pair => pair.1 ++ "=" ++ pair.2).map String.toList)
    rw [htext]
    refine ⟨c, hc, ?_⟩
    rcases hstart with rfl | rfl <;> decide

/-! ## Rules in the order of their use -/

lemma inOrder_inOrder (rules : List TagRule) : inOrder (inOrder rules) = inOrder rules := by
  have horder : InPriorityOrder (inOrder rules) (inOrder rules) :=
    ⟨(inPriorityOrder_inOrder rules).descending, fun _ => rfl⟩
  exact (inPriorityOrder_iff.1 horder).symm

/-- The rules of a run are read from the directives or the default ones, and there is one. -/
lemma of_parseAll (h : parseAll directives = .ok rules) : rules ≠ [] ∧ inOrder rules = rules ∧
    ∀ r ∈ rules, ∃ directive, (directive ∈ directives ∨ directive ∈ defaultRules) ∧
      parse directive = .ok r := by
  obtain ⟨written, hwritten, horder⟩ := bind_eq_ok.1 h
  obtain rfl := Except.ok.inj horder
  have hperm : (inOrder written).Perm written := List.mergeSort_perm _ _
  refine ⟨fun hnil => ?_, inOrder_inOrder written, fun r hr => ?_⟩
  · obtain rfl : written = [] := (hnil ▸ hperm).nil_eq.symm
    split at hwritten
    · obtain ⟨b, -, bs, -, hbs⟩ := mapM_cons_eq_ok.1 hwritten
      simp at hbs
    · next hempty =>
      cases directives with
      | nil => simp at hempty
      | cons directive directives =>
        obtain ⟨b, -, bs, -, hbs⟩ := mapM_cons_eq_ok.1 hwritten
        simp at hbs
  · obtain ⟨directive, hdirective, hparse⟩ := exists_of_mem_mapM hwritten (hperm.mem_iff.1 hr)
    refine ⟨directive, ?_, hparse⟩
    split at hdirective
    · exact Or.inr hdirective
    · exact Or.inl hdirective

/-- **Rules in the order of their use are read from their texts again.** -/
theorem parseAll_texts (h : parseAll directives = .ok rules) :
    parseAll (rules.map text) = .ok rules := by
  obtain ⟨hne, horder, hread⟩ := of_parseAll h
  have hparse : (rules.map text).mapM parse = .ok (rules.map id) := by
    refine mapM_map_eq_ok fun r hr => ?_
    obtain ⟨directive, -, hdirective⟩ := hread r hr
    exact (settled_of_parse hdirective).parse_eq_ok
  rw [parseAll, if_neg (by simpa using hne), hparse, List.map_id]
  show Except.ok (inOrder rules) = _
  rw [horder]

set_option maxRecDepth 4000 in
/-- The default rules can be read. -/
lemma exists_parseAll_nil : ∃ rules, parseAll [] = .ok rules := by
  have hok : (parseAll []).isOk = true := by cbv
  cases hrules : parseAll [] with
  | error failure => simp [hrules, Except.isOk, Except.toBool] at hok
  | ok rules => exact ⟨rules, rfl⟩

end TagRule

/-! ## The listing -/

/-- The texts of the rules of a run stand on lines of their own. -/
lemma TagRule.isLine_of_mem_texts {tags : String} {rules : List TagRule}
    (h : TagRule.parseAll (Directive.list tags) = .ok rules) :
    ∀ directive ∈ rules.map TagRule.text, Directive.IsLine directive := by
  refine List.forall_mem_map.2 fun r hr => ?_
  obtain ⟨-, -, hread⟩ := TagRule.of_parseAll h
  obtain ⟨directive, hfound | hdefault, hparse⟩ := hread r hr
  · exact TagRule.isLine_text hparse (Directive.isLine_of_mem_list hfound).no_feed
  · have hfeed : ∀ directive ∈ TagRule.defaultRules, '\n' ∉ directive.toList := by decide
    exact TagRule.isLine_text hparse (hfeed directive hdefault)

/-- **A listing of rules is listed again as it is.**  A text without any rule has a listing, too,
that of the default rules. -/
theorem listRules_listRules (tags : String) :
    (∀ printed, listRules tags = .ok printed → listRules printed = .ok printed) ∧
      (Directive.list tags = [] →
        ∃ printed, listRules tags = .ok printed ∧ listRules printed = .ok printed) := by
  have hagain : ∀ printed, listRules tags = .ok printed → listRules printed = .ok printed := by
    intro printed h
    obtain ⟨rules, hrules, hprinted⟩ := bind_eq_ok.1 h
    obtain rfl := Except.ok.inj hprinted
    have htext : (rules.map fun rule => rule.text ++ "\n") =
        (rules.map TagRule.text).map (· ++ "\n") := by simp
    have hlist := Directive.list_join (TagRule.isLine_of_mem_texts hrules)
    rw [htext, listRules, hlist, TagRule.parseAll_texts hrules]
    show Except.ok _ = _
    rw [htext]
  refine ⟨hagain, fun hnone => ?_⟩
  obtain ⟨rules, hrules⟩ := TagRule.exists_parseAll_nil
  have hprinted : listRules tags =
      .ok (String.join (rules.map fun rule => rule.text ++ "\n")) := by
    rw [listRules, hnone, hrules]
    rfl
  exact ⟨_, hprinted, hagain _ hprinted⟩

end

open Builtin in
set_option maxRecDepth 4000 in
/-- A text with a comment, blanks around its directives, a carriage return that is not in front of a
line feed, and a field in quotes that looks like a comment.  A text with nothing but a comment. -/
theorem listRules_of_listing : ∃ listed printed,
    listed = "type=raw,value=sha,enable=true,priority=200\n" ++
      "type=raw,\"value=#1, a\rb\",x=,enable=true,priority=200\n" ∧
    listRules "# rules\n  sha \r\n\n\"#1, a\rb\" , x=\n" = .ok listed ∧
    listRules listed = .ok listed ∧
    listRules "# no rules" = .ok printed ∧ listRules printed = .ok printed := by
  have hlist : listRules "# rules\n  sha \r\n\n\"#1, a\rb\" , x=\n" =
      .ok ("type=raw,value=sha,enable=true,priority=200\n" ++
        "type=raw,\"value=#1, a\rb\",x=,enable=true,priority=200\n") := by cbv
  have hnone : Directive.list "# no rules" = [] := by cbv
  obtain ⟨printed, hprinted, hagain⟩ := (listRules_listRules _).2 hnone
  exact ⟨_, printed, rfl, hlist, (listRules_listRules _).1 _ hlist, hprinted, hagain⟩

end ImageTags
