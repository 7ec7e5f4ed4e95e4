import ImageTags.Dictionary
import ImageTags.Directive
import ImageTags.Pattern.Matcher
import ImageTags.Rule.Kind

/-!
# Rules

A rule says how a tag is derived from an event.  A `TagRule` is a rule as it was configured: with
its priority and with all its attributes, those that were left out filled in.
-/

namespace ImageTags

variable [Pattern.Engine]

/-- A rule with what it needs for its kind. -/
inductive Rule where
  | schedule (pattern : String)
  /-- An empty `value` stands for the pushed tag. -/
  | version (dialect : Dialect) (pattern value : String)
  /-- An empty `value` stands for the pushed tag. -/
  | matching (matcher : Pattern.Matcher) (group : Nat) (value : String)
  /-- An empty `branch` stands for the default branch. -/
  | edge (branch : String)
  | ref (event : RefEvent)
  | raw (value : String)
  | sha (format : ShaFormat)
  deriving DecidableEq

/-- The kind of a rule. -/
def Rule.kind : Rule → RuleKind
  | schedule _ => .schedule
  | version dialect _ _ => .version dialect
  | matching _ _ _ => .matching
  | edge _ => .edge
  | ref _ => .ref
  | raw _ => .raw
  | sha _ => .sha

/-- A configured rule. -/
structure TagRule where
  rule : Rule
  priority : Int
  attributes : Dictionary String
  deriving DecidableEq

namespace TagRule

/-- The attribute that switches a rule on and off, which may be a template. -/
def enabling (r : TagRule) : String :=
  (r.attributes.get? "enable").getD "true"

/-- The fields of the directive that writes a rule out: its kind and every attribute. -/
def fields (r : TagRule) : List String :=
  ("type=" ++ r.rule.kind.name) :: r.attributes.entries.map fun (key, value) => key ++ "=" ++ value

/-- A configured rule as a directive. -/
def text (r : TagRule) : String :=
  Directive.ofFields r.fields

/-- Whether two configured rules differ in nothing but the order of their attributes. -/
def agrees (r s : TagRule) : Bool :=
  r.rule = s.rule && r.priority = s.priority && r.attributes.sameEntries s.attributes

end TagRule

end ImageTags
