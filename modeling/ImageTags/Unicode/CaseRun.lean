/-!
# Runs of case mappings

A case mapping moves most characters by a distance that stays the same over a whole alphabet.  A
run holds the code points `first`, `first + step`, … up to `last` together with that distance.
-/

namespace ImageTags.Unicode

/-- An arithmetic progression of code points that a case mapping moves by `shift`. -/
structure CaseRun where
  first : Nat
  last : Nat
  step : Nat
  shift : Int
  deriving DecidableEq, Repr

namespace CaseRun

/-- Membership of a code point in the progression. -/
def covers (r : CaseRun) (n : Nat) : Bool :=
  r.first ≤ n && n ≤ r.last && (n - r.first) % r.step == 0

/-- Where the run moves the code point `n`. -/
def target (r : CaseRun) (n : Nat) : Nat :=
  (n + r.shift).toNat

/-- The character that the run moves to `c`, if there is one. -/
def source? (r : CaseRun) (c : Char) : Option Char :=
  let n := (c.toNat - r.shift).toNat
  if r.covers n && r.target n == c.toNat then some (Char.ofNat n) else none

/-- The case mapping given by `runs`: the first run that covers a character moves it, and any other
character stays as it is. -/
def apply (runs : List CaseRun) (c : Char) : Char :=
  match runs.find? (·.covers c.toNat) with
  | some r => Char.ofNat (r.target c.toNat)
  | none => c

end CaseRun

end ImageTags.Unicode
