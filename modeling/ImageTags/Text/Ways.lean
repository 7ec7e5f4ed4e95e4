/-!
# Ways in which a pattern matches

A pattern can match the start of a text in several ways: a repetition can be shorter, an optional
part can be left out, another name can be tried.  `Ways` lists all of them in the order in which
a search that goes back tries them, each with what it leaves of the text.  The way that counts is
the first one that the rest of the pattern can follow.

* `Ways.first?` — what the way that counts has found.
* `Ways.many`, `Ways.opt`, `Ways.star` — take as much as they can, and less only afterwards.
-/

namespace ImageTags.Text

/-- The ways in which a pattern matches the start of a text, the preferred one first, with what was
found and what is left. -/
def Ways (α : Type) : Type := List Char → List (α × List Char)

namespace Ways

variable {α β : Type}

/-- A pattern that is followed by another one. -/
instance : Monad Ways where
  pure a := fun cs => [(a, cs)]
  bind w next := fun cs => (w cs).flatMap fun (a, rest) => next a rest

/-- What was found in the way that counts. -/
def first? (w : Ways α) (cs : List Char) : Option α :=
  (w cs).head?.map Prod.fst

/-- The end of the text. -/
def atEnd : Ways Unit
  | [] => [((), [])]
  | _ :: _ => []

/-- One character that passes a test. -/
def one (p : Char → Bool) : Ways Char
  | [] => []
  | c :: cs => if p c then [(c, cs)] else []

/-- Any number of characters that pass a test. -/
def many (p : Char → Bool) : Ways (List Char)
  | [] => [([], [])]
  | c :: cs =>
    (if p c then (many p cs).map fun (run, rest) => (c :: run, rest) else []) ++ [([], c :: cs)]

/-- One character that passes a test, or more of them. -/
def many1 (p : Char → Bool) : Ways (List Char) := do
  let c ← one p
  let run ← many p
  return c :: run

/-- A part that can be left out. -/
def opt (w : Ways α) : Ways (Option α) := fun cs =>
  ((w cs).map fun (a, rest) => (some a, rest)) ++ [(none, cs)]

/-- One pattern, or else the other. -/
def either (w w' : Ways α) : Ways α := fun cs =>
  w cs ++ w' cs

/-- Any number of rounds of a pattern; a round that takes nothing does not count. -/
def star (w : Ways α) : Ways (List α) := fun cs =>
  ((w cs).flatMap fun (a, rest) =>
    if _h : rest.length < cs.length then (star w rest).map fun (as, rest) => (a :: as, rest)
    else []) ++ [([], cs)]
termination_by cs => cs.length

/-- Runs of characters that pass one test, with single characters between them that pass
another. -/
def separated (isBetween isInside : Char → Bool) : Ways (List Char) := do
  let run ← many1 isInside
  let runs ← star do
    let c ← one isBetween
    let run ← many1 isInside
    return c :: run
  return run ++ runs.flatten

end Ways

end ImageTags.Text
