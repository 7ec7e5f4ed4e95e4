import ImageTags.Pattern.CharSet

/-!
# Regular expressions

What a pattern stands for once it is read: all modes are settled, the shorthands are gone.
-/

namespace ImageTags.Pattern

/-- A condition on the place between two characters.  `unicode` says by which characters words are
recognised. -/
inductive Look where
  | textStart
  | textEnd
  | lineStart
  | lineEnd
  /-- The same where a carriage return also ends a line, but does not part from a line feed. -/
  | lineStartReturn
  | lineEndReturn
  | wordBoundary (unicode : Bool)
  | noWordBoundary (unicode : Bool)
  | wordStart (unicode : Bool)
  | wordEnd (unicode : Bool)
  /-- No character of a word before. -/
  | wordStartHalf (unicode : Bool)
  /-- No character of a word after. -/
  | wordEndHalf (unicode : Bool)
  deriving DecidableEq, Repr

/-- Whether a character, if there is one, is part of a word. -/
def isWord (unicode : Bool) : Option Char → Bool
  | some c => if unicode then CharSet.word.contains c else CharSet.asciiWord.contains c
  | none => false

/-- Whether a condition holds between two characters; there may be none on either side. -/
def Look.holds : Look → (before after : Option Char) → Bool
  | textStart, before, _ => before.isNone
  | textEnd, _, after => after.isNone
  | lineStart, before, _ => before.isNone || before == some '\n'
  | lineEnd, _, after => after.isNone || after == some '\n'
  | lineStartReturn, before, after =>
    before.isNone || before == some '\n' || (before == some '\r' && after != some '\n')
  | lineEndReturn, before, after =>
    after.isNone || after == some '\r' || (after == some '\n' && before != some '\r')
  | wordBoundary u, before, after => isWord u before != isWord u after
  | noWordBoundary u, before, after => isWord u before == isWord u after
  | wordStart u, before, after => !isWord u before && isWord u after
  | wordEnd u, before, after => isWord u before && !isWord u after
  | wordStartHalf u, before, _ => !isWord u before
  | wordEndHalf u, _, after => !isWord u after

/-- A regular expression.  The first of two alternatives is preferred; an option or a repetition
that is greedy prefers to go on. -/
inductive Expr where
  | empty
  | set (set : CharSet)
  | look (look : Look)
  /-- Remembers what the expression matches as group `index`. -/
  | group (index : Nat) (e : Expr)
  | cat (e f : Expr)
  | alt (e f : Expr)
  | opt (greedy : Bool) (e : Expr)
  /-- Once or more often. -/
  | plus (greedy : Bool) (e : Expr)
  /-- At least `low` times and at most `high` times, if there is such a bound. -/
  | times (low : Nat) (high : Option Nat) (greedy : Bool) (e : Expr)

namespace Expr

/-- Expressions one after the other. -/
def cats : List Expr → Expr
  | [] => empty
  | [e] => e
  | e :: es => cat e (cats es)

/-- Alternatives in order of preference. -/
def alts : List Expr → Expr
  | [] => empty
  | [e] => e
  | e :: es => alt e (alts es)

/-- An expression repeated as often as the bounds say.  Without a single round nothing of the
expression is left, not even its groups. -/
def repeated (low : Nat) (high : Option Nat) (greedy : Bool) (e : Expr) : Expr :=
  match low, high with
  | 0, some 0 => empty
  | 1, some 1 => e
  | 0, some 1 => opt greedy e
  | 1, none => plus greedy e
  | 0, none => opt greedy (plus greedy e)
  | _, _ => times low high greedy e

/-- The number of steps that an expression takes when its repetitions are written out. -/
def size : Expr → Nat
  | empty => 1
  | set s => max 1 s.size
  | look _ => 1
  | group _ e => e.size + 2
  | cat e f => e.size + f.size
  | alt e f => e.size + f.size + 1
  | opt _ e => e.size + 1
  | plus _ e => e.size + 1
  | times low none _ e => max low 1 * e.size + 2
  | times low (some high) _ e => max low high * (e.size + 1) + 1

/-- The highest number of a group. -/
def maxGroup : Expr → Nat
  | empty | set _ | look _ => 0
  | group index e => max index e.maxGroup
  | cat e f | alt e f => max e.maxGroup f.maxGroup
  | opt _ e | plus _ e | times _ _ _ e => e.maxGroup

/-- `n` copies of an expression one after the other. -/
def copies : Nat → Expr → Expr
  | 0, _ => empty
  | 1, e => e
  | n + 1, e => cat e (copies n e)

/-- Up to `n` copies of an expression, each following the one before. -/
def optional (greedy : Bool) : Nat → Expr → Expr
  | 0, _ => empty
  | 1, e => opt greedy e
  | n + 1, e => opt greedy (cat e (optional greedy n e))

/-- An expression with its counted repetitions written out. -/
def unrolled : Expr → Expr
  | empty => empty
  | set s => set s
  | look l => look l
  | group index e => group index e.unrolled
  | cat e f => cat e.unrolled f.unrolled
  | alt e f => alt e.unrolled f.unrolled
  | opt greedy e => opt greedy e.unrolled
  | plus greedy e => plus greedy e.unrolled
  | times low none greedy e =>
    if low = 0 then opt greedy (plus greedy e.unrolled)
    else cat (copies (low - 1) e.unrolled) (plus greedy e.unrolled)
  | times low (some high) greedy e =>
    cat (copies low e.unrolled) (optional greedy (high - low) e.unrolled)

end Expr

end ImageTags.Pattern
