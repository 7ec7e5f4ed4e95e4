/-!
# Names of tags

A tag is named by letters, digits, points, underscores and hyphens of ASCII.  A text becomes such a
name by putting one hyphen in the place of each run of other characters.
-/

namespace ImageTags.TagName

/-- The characters of names of tags. -/
def isAllowed (c : Char) : Bool :=
  c.isAlphanum || c = '.' || c = '_' || c = '-'

/-- The name made of the rest of a text; `inRun` says whether the character before it was replaced
together with what follows. -/
def cleanFrom : (inRun : Bool) → List Char → List Char
  | _, [] => []
  | inRun, c :: cs =>
    if isAllowed c then c :: cleanFrom false cs
    else if inRun then cleanFrom true cs
    else '-' :: cleanFrom true cs

/-- The text with a hyphen for each longest run of characters that are not allowed. -/
def clean (text : String) : String :=
  String.ofList (cleanFrom false text.toList)

end ImageTags.TagName
