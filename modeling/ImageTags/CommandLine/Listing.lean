import ImageTags.CommandLine.Generate

/-!
# The command that lists rules

The command reads directives and prints the rules that they are, and has no other effect.
-/

namespace ImageTags

variable [Pattern.Engine]

/-- The rules in a text of directives, one on each line, in the order of their use and with every
attribute written out. -/
def listRules (tags : String) : Except Failure String := do
  let rules ← TagRule.parseAll (Directive.list tags)
  .ok (String.join (rules.map fun rule => rule.text ++ "\n"))

/-- A run of the command that lists rules, on a file tree. -/
def listRulesOn (tags : String) (t : FileTree) : Outcome :=
  match listRules tags with
  | .ok text => ⟨text, t, none⟩
  | .error failure => ⟨"", t, some (.invalid failure)⟩

end ImageTags
