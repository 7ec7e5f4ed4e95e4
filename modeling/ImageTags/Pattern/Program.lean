import ImageTags.Pattern.Expr

/-!
# Search programs

A regular expression is turned into a program of numbered instructions.  Each instruction says
where to go on; a split names two places in order of preference.
-/

namespace ImageTags.Pattern

/-- An instruction of a search program. -/
inductive Instruction where
  /-- Consumes a character of the set. -/
  | set (set : CharSet) (next : Nat)
  | look (look : Look) (next : Nat)
  /-- Remembers the place in the text in a slot. -/
  | save (slot next : Nat)
  | split (first second : Nat)
  | jump (next : Nat)
  | accept

/-- A split that prefers to go on if it is greedy, and to leave if not. -/
def Instruction.choice (greedy : Bool) (on off : Nat) : Instruction :=
  if greedy then split on off else split off on

namespace Expr

/-- The number of instructions that `code` makes of an expression without counted repetitions. -/
def codeSize : Expr → Nat
  | empty | set _ | look _ => 1
  | group _ e => e.codeSize + 2
  | cat e f => e.codeSize + f.codeSize
  | alt e f => e.codeSize + f.codeSize + 1
  | opt _ e | plus _ e => e.codeSize + 1
  | times _ _ _ e => e.codeSize

/-- The instructions of an expression when they are numbered from `start` and go on at `next`. -/
def code (start next : Nat) : Expr → List Instruction
  | empty => [.jump next]
  | set s => [.set s next]
  | look l => [.look l next]
  | group index e =>
    let inside := start + 1 + e.codeSize
    .save (2 * index) (start + 1) :: e.code (start + 1) inside ++ [.save (2 * index + 1) next]
  | cat e f =>
    let second := start + e.codeSize
    e.code start second ++ f.code second next
  | alt e f =>
    let second := start + 1 + e.codeSize
    .split (start + 1) second :: e.code (start + 1) next ++ f.code second next
  | opt greedy e => .choice greedy (start + 1) next :: e.code (start + 1) next
  | plus greedy e =>
    let again := start + e.codeSize
    e.code start again ++ [.choice greedy start next]
  | times _ _ _ e => e.code start next

end Expr

/-- A program with the number of slots that it uses. -/
structure Program where
  code : Array Instruction
  slots : Nat

/-- The program of an expression.  The whole match is group 0. -/
def Program.ofExpr (e : Expr) : Program :=
  let whole := Expr.group 0 e.unrolled
  let size := whole.codeSize
  ⟨(whole.code 0 size ++ [Instruction.accept]).toArray, 2 * (e.maxGroup + 1)⟩

end ImageTags.Pattern
