/-!
# Engines for regular expressions

What is asked of the engine that compiles the expressions of patterns and finds them in texts.
-/

namespace ImageTags.Pattern

/-- How a pattern, or a part of one, is meant. -/
structure Modes where
  /-- Letters match their case variants. -/
  ignoreCase : Bool := false
  /-- The start and the end of a line can be asked for. -/
  multiLine : Bool := false
  /-- The dot matches a line feed too. -/
  dotAll : Bool := false
  /-- Repetitions are greedy with a question mark after them, and not without. -/
  swapGreed : Bool := false
  /-- Classes, words and case variants are those of Unicode, not those of ASCII. -/
  unicode : Bool := true
  /-- A carriage return ends a line too. -/
  returnEndsLine : Bool := false
  /-- Blanks and comments in the pattern mean nothing. -/
  ignoreSpace : Bool := false
  deriving DecidableEq, Repr

/-- An engine for regular expressions. -/
class Engine where
  /-- An expression that was compiled. -/
  Program : Type
  /-- Compiles an expression that is meant in the given modes; none if it is not one. -/
  compile? : Modes → List Char → Option Program
  /-- The leftmost match in a text: what each group matched, the whole match first.  A group that
  took no part has nothing. -/
  match? : Program → String → Option (List (Option String))

end ImageTags.Pattern
