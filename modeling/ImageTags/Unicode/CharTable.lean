/-!
# Tables of characters

A property of characters is written down as a list of runs.  A run is an arithmetic progression of
code points, so that alphabets in which capital and small letters alternate take one entry.

The text form of a table is a list of words in hexadecimal: `41` for one code point, `41-5A` for
all from the first to the second, `100-12E:2` for every second one.
-/

namespace ImageTags.Unicode

/-- The code points `first`, `first + step`, `first + 2 * step`, … up to `last`. -/
structure Run where
  first : Nat
  last : Nat
  step : Nat
  deriving DecidableEq, Repr

/-- Membership of a code point in a run. -/
def Run.covers (r : Run) (n : Nat) : Bool :=
  r.first ≤ n && n ≤ r.last && (n - r.first) % r.step == 0

/-- A set of characters, given by runs of code points. -/
structure CharTable where
  runs : List Run
  deriving DecidableEq, Repr

/-- Membership of a character in a table. -/
def CharTable.contains (t : CharTable) (c : Char) : Bool :=
  t.runs.any (·.covers c.toNat)

/-- The value of a hexadecimal digit. -/
def hexValue? (c : Char) : Option Nat :=
  if '0' ≤ c ∧ c ≤ '9' then some (c.toNat - '0'.toNat)
  else if 'a' ≤ c ∧ c ≤ 'f' then some (c.toNat - 'a'.toNat + 10)
  else if 'A' ≤ c ∧ c ≤ 'F' then some (c.toNat - 'A'.toNat + 10)
  else none

/-- The state of reading one word of a table: the numbers closed so far and the number being
read. -/
structure RunWord where
  first : Option Nat
  last : Option Nat
  number : Nat
  deriving Repr

/-- Closes a word and gives the run it stands for. -/
def RunWord.close (w : RunWord) : Run :=
  match w.first, w.last with
  | none, _ => ⟨w.number, w.number, 1⟩
  | some first, none => ⟨first, w.number, 1⟩
  | some first, some last => ⟨first, last, w.number⟩

/-- Reads the runs of a table; `w` is the word under way, if there is one. -/
def readRuns : Option RunWord → List Char → List Run
  | none, [] => []
  | some w, [] => [w.close]
  | w, c :: cs =>
    match hexValue? c with
    | some d =>
      let w := w.getD ⟨none, none, 0⟩
      readRuns (some { w with number := 16 * w.number + d }) cs
    | none =>
      match w with
      | none => readRuns none cs
      | some w =>
        if c = '-' then readRuns (some ⟨some w.number, none, 0⟩) cs
        else if c = ':' then readRuns (some ⟨w.first, some w.number, 0⟩) cs
        else w.close :: readRuns none cs

/-- The table written as `text`. -/
def CharTable.ofText (text : String) : CharTable :=
  ⟨readRuns none text.toList⟩

end ImageTags.Unicode
