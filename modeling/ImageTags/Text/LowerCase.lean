import ImageTags.Unicode.CaseMapping
import ImageTags.Unicode.Casing

/-!
# Lower case

Texts are put into lower case by the full Unicode mapping.  Only the capital sigma depends on what
surrounds it: at the end of a word it becomes `ς`, elsewhere `σ`.
-/

namespace ImageTags.Text

open Unicode

/-- Whether a cased character comes first once the case-ignorable ones are skipped. -/
def meetsCased (cs : List Char) : Bool :=
  match cs.dropWhile caseIgnorable.contains with
  | [] => false
  | c :: _ => cased.contains c

/-- A capital sigma ends a word if a cased letter precedes it and none follows it.  `before` holds
the characters before it, nearest first. -/
def endsWord (before after : List Char) : Bool :=
  meetsCased before && !meetsCased after

/-- The lower-case form of a text that follows the characters `before`, nearest first. -/
def lowerCaseAfter (before : List Char) : List Char → List Char
  | [] => []
  | c :: cs =>
    (if c = 'Σ' then [if endsWord before cs then 'ς' else 'σ'] else lowerCaseOf c) ++
      lowerCaseAfter (c :: before) cs

/-- The lower-case form of a text. -/
def lowerCase (cs : List Char) : List Char :=
  lowerCaseAfter [] cs

/-- The lower-case form of a string. -/
def lowerCased (s : String) : String :=
  String.ofList (lowerCase s.toList)

/-- The text with the letters `A` to `Z` in lower case and all else as it is. -/
def asciiLowerCase (cs : List Char) : List Char :=
  cs.map Char.toLower

end ImageTags.Text
