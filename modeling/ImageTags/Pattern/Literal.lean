import ImageTags.Failure
import ImageTags.Pattern.Engine
import ImageTags.Text.Split

/-!
# Patterns of match rules

A pattern is a regular expression, or one between slashes with letters after it that set its modes.
-/

namespace ImageTags.Pattern

open Text

/-- The expression and the letters of a pattern between slashes: those around its last slash, if
the expression is not empty. -/
def splitLiteral? (pattern : List Char) : Option (List Char × List Char) := do
  let body ← stripStart? ['/'] pattern
  let (expression, flags) ← splitLast? '/' body
  if expression = [] then none else some (expression, flags)

/-- The modes with the one set that a letter stands for.  Three letters stand for nothing that
matters to a single match. -/
def Modes.withFlag? (m : Modes) (flag : Char) : Option Modes :=
  if flag = 'i' then some { m with ignoreCase := true }
  else if flag = 'm' then some { m with multiLine := true }
  else if flag = 's' then some { m with dotAll := true }
  else if flag = 'g' ∨ flag = 'u' ∨ flag = 'y' then some m
  else none

/-- The modes that the letters after a pattern stand for. -/
def modesOf? (flags : List Char) : Option Modes :=
  flags.foldlM Modes.withFlag? {}

/-- Compiles a pattern.  A letter that stands for no mode is found before anything that is wrong
with the expression. -/
def compile [Engine] (pattern : String) : Except Failure Engine.Program :=
  let program (modes : Modes) (expression : List Char) : Except Failure Engine.Program :=
    match Engine.compile? modes expression with
    | some program => .ok program
    | none => .error (.pattern pattern)
  match splitLiteral? pattern.toList with
  | none => program {} pattern.toList
  | some (expression, flags) =>
    match modesOf? flags with
    | some modes => program modes expression
    | none => .error (.invalidAttribute "pattern" pattern)

end ImageTags.Pattern
