import ImageTags.Numeral
import ImageTags.Rule.Basic

/-!
# Reading rules

A rule is a directive whose fields are attributes.  The field `type` names the kind; a kind's bare
name in front of other fields does the same, and any other bare word is the value of the rule.  A
rule without a kind is raw.

The reading goes in three steps: the fields become entries, the attributes that were left out are
filled in, and the rule is made of the attributes, which must be there and be valid.
-/

namespace ImageTags

open Text

/-! ## Entries -/

/-- What one field of a rule says. -/
inductive RuleEntry where
  | kind (kind : RuleKind)
  | attr (key value : String)
  deriving DecidableEq, Repr

namespace RuleEntry

/-- What a bare word says; `leading` means that it is the first of several fields. -/
def ofWord (leading : Bool) (word : String) : RuleEntry :=
  match leading, RuleKind.ofName? word with
  | true, some k => .kind k
  | _, _ => .attr "value" word

/-- Reads a field of the rule `directive`. -/
def read (directive : String) (leading : Bool) (field : String) : Except Failure RuleEntry :=
  match Directive.pair? field with
  | none => .ok (ofWord leading (trimmed field))
  | some (key, value) =>
    if key = "type" then
      match RuleKind.ofName? value with
      | some k => .ok (.kind k)
      | none => .error (.unknownTagType value directive)
    else .ok (.attr key value)

/-- Reads the fields of the rule `directive`. -/
def readAll (directive : String) : List String → Except Failure (List RuleEntry)
  | [] => .ok []
  | field :: fields => do
    let entry ← read directive (!fields.isEmpty) field
    let entries ← fields.mapM (read directive false)
    .ok (entry :: entries)

/-- The kind that an entry names. -/
def kind? : RuleEntry → Option RuleKind
  | kind k => some k
  | attr _ _ => none

/-- The attribute that an entry sets. -/
def attr? : RuleEntry → Option (String × String)
  | kind _ => none
  | attr key value => some (key, value)

end RuleEntry

/-! ## Attributes that were left out -/

/-- The attributes that a rule has by its kind if they are not set, in their order. -/
def RuleKind.defaults (set : Dictionary String) : RuleKind → List (String × String)
  | .schedule => [("pattern", "nightly")]
  | .version _ => [("value", "")]
  | .matching => [("group", "0"), ("value", "")]
  | .edge => [("branch", "")]
  | .ref => if set.get? "event" = some "pr" then [("prefix", "pr-")] else []
  | .raw => []
  | .sha => [("prefix", "sha-"), ("format", "short")]

/-- The attributes of a rule with those filled in that are not set. -/
def RuleKind.complete (kind : RuleKind) (set : Dictionary String) : Dictionary String :=
  (kind.defaults set ++
    [("enable", "true"), ("priority", String.ofList (Numeral.ofInt kind.priority))]).foldl
    (fun attributes (key, value) => attributes.insertIfNew key value) set

/-! ## The rule itself -/

variable [Pattern.Engine]

/-- The value of an attribute that the rule `directive` must have. -/
def required (directive : String) (attributes : Dictionary String) (name : String) :
    Except Failure String :=
  match attributes.get? name with
  | some value => .ok value
  | none => .error (.missingAttribute name directive)

/-- An attribute of the rule `directive` that was read, if it is valid. -/
def validated {α : Type} (directive name : String) : Option α → Except Failure α
  | some value => .ok value
  | none => .error (.invalidAttribute name directive)

/-- Compiles the pattern of the rule `directive`. -/
def readMatcher (directive pattern : String) : Except Failure Pattern.Matcher :=
  (Pattern.Matcher.ofPattern pattern).mapError fun
    | .invalidAttribute name _ => .invalidAttribute name directive
    | failure => failure

/-- The rule of a kind that has given attributes. -/
def Rule.ofAttributes (directive : String) (attributes : Dictionary String) (kind : RuleKind) :
    Except Failure Rule :=
  let get := required directive attributes
  match kind with
  | .schedule => do
    .ok (.schedule (← get "pattern"))
  | .version dialect => do
    .ok (.version dialect (← get "pattern") (← get "value"))
  | .matching => do
    let matcher ← readMatcher directive (← get "pattern")
    let group ← validated directive "group"
      (Numeral.readUnsigned? (trim (← get "group").toList))
    .ok (.matching matcher group (← get "value"))
  | .edge => do
    .ok (.edge (← get "branch"))
  | .ref => do
    .ok (.ref (← validated directive "event" (RefEvent.ofName? (← get "event"))))
  | .raw => do
    .ok (.raw (← get "value"))
  | .sha => do
    .ok (.sha (← validated directive "format" (ShaFormat.ofName? (← get "format"))))

/-- The kind that the last entry with one names; without any the rule is raw. -/
def kindOf (entries : List RuleEntry) : RuleKind :=
  ((entries.filterMap RuleEntry.kind?).getLast?).getD .raw

/-- Makes a rule of its entries. -/
def TagRule.ofEntries (directive : String) (entries : List RuleEntry) : Except Failure TagRule := do
  let kind := kindOf entries
  let attributes := kind.complete (Dictionary.ofEntries (entries.filterMap RuleEntry.attr?))
  let rule ← Rule.ofAttributes directive attributes kind
  let priority ← validated directive "priority"
    (Numeral.readSigned? (trim (← required directive attributes "priority").toList))
  .ok ⟨rule, priority, attributes⟩

/-- Reads a rule. -/
def TagRule.parse (directive : String) : Except Failure TagRule := do
  let fields ← Directive.fields directive
  let entries ← RuleEntry.readAll directive fields
  ofEntries directive entries

end ImageTags
