import ImageTags.Rule.Reader

/-!
# The order of rules

Rules are used from the highest priority down.  Those of one priority stay in the order in which
they were written.
-/

namespace ImageTags.TagRule

/-- The rules of a run that configures none. -/
def defaultRules : List String :=
  ["type=schedule", "type=ref,event=branch", "type=ref,event=tag", "type=ref,event=pr"]

variable [Pattern.Engine]

/-- Rules in the order of their use. -/
def inOrder (rules : List TagRule) : List TagRule :=
  rules.mergeSort fun r s => s.priority ≤ r.priority

/-- Reads the rules of a run and puts them in the order of their use. -/
def parseAll (directives : List String) : Except Failure (List TagRule) := do
  let rules ← (if directives.isEmpty then defaultRules else directives).mapM parse
  .ok (inOrder rules)

end ImageTags.TagRule
