import ImageTags.Pattern.Literal

/-!
# Compiled patterns

A pattern is compiled when the rule that holds it is read.  A `Matcher` keeps the program together
with the fact that it belongs to the pattern, so nothing can go wrong when the rule is used.
-/

namespace ImageTags.Pattern

variable [Engine]

/-- A pattern with its program. -/
structure Matcher where
  pattern : String
  program : Engine.Program
  compiled : compile pattern = .ok program

namespace Matcher

/-- Two matchers are equal if their patterns are: the program depends on nothing else. -/
theorem ext_pattern {m n : Matcher} (h : m.pattern = n.pattern) : m = n := by
  obtain ⟨p, program, hm⟩ := m
  obtain ⟨q, program', hn⟩ := n
  obtain rfl : p = q := h
  obtain rfl : program = program' := by simpa using hm.symm.trans hn
  rfl

instance : DecidableEq Matcher := fun m n =>
  if h : m.pattern = n.pattern then isTrue (ext_pattern h)
  else isFalse fun hmn => h (by rw [hmn])

/-- Compiles a pattern. -/
def ofPattern (pattern : String) : Except Failure Matcher :=
  match h : compile pattern with
  | .ok program => .ok ⟨pattern, program, h⟩
  | .error failure => .error failure

/-- What a group of the pattern takes of a text in the first match. -/
def group? (m : Matcher) (group : Nat) (text : String) : Option String := do
  let groups ← Engine.match? m.program text
  (groups[group]?).join

end Matcher

end ImageTags.Pattern
