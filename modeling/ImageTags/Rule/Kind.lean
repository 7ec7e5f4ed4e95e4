import ImageTags.Version.Reading

/-!
# Kinds of rules

Each rule is of one of eight kinds, known by its name.  The kind decides which attributes a rule
has and how early it is used: rules of high priority come first.
-/

namespace ImageTags

/-- The kinds of rules. -/
inductive RuleKind where
  /-- Applies when a schedule set off the run. -/
  | schedule
  /-- Reads a version in a dialect. -/
  | version (dialect : Dialect)
  /-- Takes a part of a text that a pattern matches. -/
  | matching
  /-- Applies to one branch. -/
  | edge
  /-- Takes the name of the ref. -/
  | ref
  /-- Gives a text as it is. -/
  | raw
  /-- Takes the name of the commit. -/
  | sha
  deriving DecidableEq, Repr

namespace RuleKind

/-- All kinds of rules. -/
def all : List RuleKind :=
  [.schedule, .version .semver, .version .pep440, .matching, .edge, .ref, .raw, .sha]

/-- The name of a kind. -/
def name : RuleKind → String
  | schedule => "schedule"
  | version dialect => dialect.name
  | matching => "match"
  | edge => "edge"
  | ref => "ref"
  | raw => "raw"
  | sha => "sha"

/-- The kind with a given name. -/
def ofName? (name : String) : Option RuleKind :=
  all.find? (·.name = name)

/-- The priority of a rule that does not set its own. -/
def priority : RuleKind → Int
  | schedule => 1000
  | version _ => 900
  | matching => 800
  | edge => 700
  | ref => 600
  | raw => 200
  | sha => 100

end RuleKind

/-- The events that a rule about refs can ask for. -/
inductive RefEvent where
  | branch
  | tag
  | pullRequest
  deriving DecidableEq, Repr

/-- The event with a given name. -/
def RefEvent.ofName? : String → Option RefEvent
  | "branch" => some .branch
  | "tag" => some .tag
  | "pr" => some .pullRequest
  | _ => none

/-- How much of the name of a commit a rule takes. -/
inductive ShaFormat where
  | short
  | long
  deriving DecidableEq, Repr

/-- The format with a given name. -/
def ShaFormat.ofName? : String → Option ShaFormat
  | "short" => some .short
  | "long" => some .long
  | _ => none

end ImageTags
