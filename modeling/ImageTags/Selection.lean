/-!
# Selections

The rules of a run offer candidates for tags one after the other.  The first candidate is the main
one; the others follow in the order in which they came.  An offer may also say whether the run
makes the latest version, and the first opinion stands.
-/

namespace ImageTags

/-- A value for a tag.  Where it brings texts of its own to put in front of it and behind it, they
take the place of those that the flavor would put there. -/
structure Candidate where
  value : String
  front : Option String
  back : Option String
  deriving DecidableEq, Repr

/-- A candidate, and an opinion whether it makes the latest version. -/
structure Offer where
  candidate : Candidate
  latest : Option Bool
  deriving DecidableEq, Repr

/-- The candidates of a run, the main one first, and the opinion that stands. -/
structure Selection where
  candidates : List Candidate
  latest : Option Bool
  deriving DecidableEq, Repr

namespace Selection

/-- Nothing has been offered. -/
def empty : Selection := ⟨[], none⟩

instance : Inhabited Selection := ⟨empty⟩

/-- The candidates with one more, which is dropped if it equals the main one. -/
def addCandidate (c : Candidate) : List Candidate → List Candidate
  | [] => [c]
  | main :: others => if c = main then main :: others else main :: others ++ [c]

/-- Takes an offer.  One without a value counts for nothing; one whose candidate is there already
still has its opinion heard. -/
def add (s : Selection) (o : Offer) : Selection :=
  if o.candidate.value = "" then s
  else ⟨addCandidate o.candidate s.candidates, s.latest.or o.latest⟩

/-- The selection that arises from offers in the order in which they come. -/
def ofOffers (offers : List Offer) : Selection :=
  offers.foldl add empty

/-- The main candidate. -/
def main? (s : Selection) : Option Candidate := s.candidates.head?

/-- The candidates after the main one. -/
def others (s : Selection) : List Candidate := s.candidates.tail

/-- Whether the opinion that stands is that the run makes the latest version. -/
def isLatest (s : Selection) : Bool := s.latest = some true

end Selection

end ImageTags
