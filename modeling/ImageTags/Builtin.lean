import ImageTags.Calendar.ZoneTable
import ImageTags.FileTree
import ImageTags.Pattern.Reader
import ImageTags.Pattern.Search

/-!
# What the program brings along

The time zones, the engine and the disk with which the program is run: a table of zones, an engine
that reads an expression and searches a text for it, and a disk that never refuses an operation or
stops in one.  Nothing but the program and what is evaluated rests on them.
-/

namespace ImageTags.Builtin

/-- The zones of a table. -/
scoped instance zones : Calendar.Zones where
  ofName? := Calendar.Zone.ofName?

/-- The engine that searches for the leftmost match. -/
scoped instance engine : Pattern.Engine where
  Program := Pattern.Program
  compile? modes e := (Pattern.Expr.parse? modes e).map .ofExpr
  match? := Pattern.Program.match?

/-- A disk on which everything succeeds that the tree allows. -/
scoped instance disk : Disk where
  refusal? _ _ _ := none
  stop? _ _ _ := none

end ImageTags.Builtin
