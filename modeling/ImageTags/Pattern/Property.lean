import ImageTags.Pattern.CharSet
import ImageTags.Unicode.Casing
import ImageTags.Unicode.Script

/-!
# Named properties of characters

A pattern can ask for the characters of a general category, of a script or with one of a few
further properties.  Names are compared without regard to case, blanks, hyphens and underscores,
and may start with `is`.
-/

namespace ImageTags.Pattern

open Unicode

/-- A name without case, blanks, hyphens, underscores and other than ASCII characters. -/
def looseLetters (cs : List Char) : List Char :=
  (cs.filter fun c => c.toNat < 0x80 && c != ' ' && c != '-' && c != '_').map Char.toLower

/-- The form in which names are compared.  The abbreviation `isc` is a name of its own. -/
def looseName (name : List Char) : String :=
  String.ofList <|
    match name with
    | i :: s :: rest =>
      if i.toLower = 'i' ∧ s.toLower = 's' then
        if looseLetters rest = ['c'] then ['i', 's', 'c'] else looseLetters rest
      else looseLetters name
    | _ => looseLetters name

section Categories

open GeneralCategory

/-- The single categories by their names. -/
def categoryTables : List (List String × CharTable) :=
  [(["lu", "uppercaseletter"], uppercaseLetter),
   (["ll", "lowercaseletter"], lowercaseLetter),
   (["lt", "titlecaseletter"], titlecaseLetter),
   (["lm", "modifierletter"], modifierLetter),
   (["lo", "otherletter"], otherLetter),
   (["mn", "nonspacingmark"], nonspacingMark),
   (["mc", "spacingmark"], spacingMark),
   (["me", "enclosingmark"], enclosingMark),
   (["nd", "decimalnumber", "digit"], decimalNumber),
   (["nl", "letternumber"], letterNumber),
   (["no", "othernumber"], otherNumber),
   (["pc", "connectorpunctuation"], connectorPunctuation),
   (["pd", "dashpunctuation"], dashPunctuation),
   (["ps", "openpunctuation"], openPunctuation),
   (["pe", "closepunctuation"], closePunctuation),
   (["pi", "initialpunctuation"], initialPunctuation),
   (["pf", "finalpunctuation"], finalPunctuation),
   (["po", "otherpunctuation"], otherPunctuation),
   (["sm", "mathsymbol"], mathSymbol),
   (["sc", "currencysymbol"], currencySymbol),
   (["sk", "modifiersymbol"], modifierSymbol),
   (["so", "othersymbol"], otherSymbol),
   (["zs", "spaceseparator"], spaceSeparator),
   (["zl", "lineseparator"], lineSeparator),
   (["zp", "paragraphseparator"], paragraphSeparator),
   (["cc", "control", "cntrl"], GeneralCategory.control),
   (["cf", "format"], format),
   (["cs", "surrogate"], ⟨[]⟩),
   (["co", "privateuse"], privateUse),
   (["cn", "unassigned"], unassigned)]

/-- The groups of categories by their names. -/
def categoryGroups : List (List String × List CharTable) :=
  [(["lc", "casedletter"], [uppercaseLetter, lowercaseLetter, titlecaseLetter]),
   (["l", "letter"],
    [uppercaseLetter, lowercaseLetter, titlecaseLetter, modifierLetter, otherLetter]),
   (["m", "mark", "combiningmark"], [nonspacingMark, spacingMark, enclosingMark]),
   (["n", "number"], [decimalNumber, letterNumber, otherNumber]),
   (["p", "punctuation", "punct"],
    [connectorPunctuation, dashPunctuation, openPunctuation, closePunctuation,
     initialPunctuation, finalPunctuation, otherPunctuation]),
   (["s", "symbol"], [mathSymbol, currencySymbol, modifierSymbol, otherSymbol]),
   (["z", "separator"], [spaceSeparator, lineSeparator, paragraphSeparator]),
   (["c", "other"], [GeneralCategory.control, format, privateUse, unassigned])]

end Categories

/-- The characters of the general category with a name. -/
def categorySet? (name : String) : Option CharSet :=
  if name = "any" then some .all
  else if name = "assigned" then some (.complement (.table GeneralCategory.unassigned))
  else if name = "ascii" then some (.range '\x00' '\x7f')
  else
    match categoryTables.find? (·.1.contains name) with
    | some (_, table) => some (.table table)
    | none =>
      (categoryGroups.find? (·.1.contains name)).map fun (_, tables) => .tables tables

/-- The characters of the script with a name. -/
def scriptSet? (name : String) : Option CharSet :=
  (script? name).map .table

/-- The characters with one of the properties that are either there or not. -/
def binarySet? (name : String) : Option CharSet :=
  (([(["alphabetic", "alpha"], .table alphabetic),
     (["lowercase", "lower"], .table lowercase),
     (["uppercase", "upper"], .table uppercase),
     (["whitespace", "wspace", "space"], .blank),
     (["cased"], .table cased),
     (["caseignorable", "ci"], .table caseIgnorable),
     (["joincontrol", "joinc"], .range '\u200c' '\u200d'),
     (["asciihexdigit", "ahex"], .ranges [('0', '9'), ('A', 'F'), ('a', 'f')])] :
      List (List String × CharSet)).find? (·.1.contains name)).map Prod.snd

/-- The characters with the property, of the category or of the script called `name`. -/
def propertySet? (name : List Char) : Option CharSet :=
  let name := looseName name
  ((binarySet? name).orElse fun _ => categorySet? name).orElse fun _ => scriptSet? name

/-- The characters for which the property called `name` has a value. -/
def valueSet? (name value : List Char) : Option CharSet :=
  let value := looseName value
  match looseName name with
  | "generalcategory" | "gc" => categorySet? value
  | "script" | "sc" => scriptSet? value
  | _ => none

end ImageTags.Pattern
