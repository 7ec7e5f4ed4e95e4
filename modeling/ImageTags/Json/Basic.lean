/-!
# JSON values

A document as a tree.  Objects keep their members in the order of the text, repeated ones too; what
a repeated member means is left to the reader of the object.

A string may hold half of a surrogate pair, which stands for no character.  Such a string is no
text: its content is `none`.  It is harmless where nobody reads it.
-/

namespace ImageTags

/-- A JSON value. -/
inductive Json where
  | null
  | bool (value : Bool)
  /-- A number by its numeral. -/
  | number (numeral : String)
  | string (content : Option String)
  | array (elements : List Json)
  | object (members : List (Option String × Json))
  deriving Inhabited, Repr

namespace Json

/-- The text of a string. -/
def text? : Json → Option String
  | string content => content
  | _ => none

/-- The first member of an object with a name. -/
def member? (name : String) : Json → Option Json
  | object members => members.lookup (some name)
  | _ => none

/-- A string with a text. -/
def ofText (s : String) : Json := string (some s)

/-- An object whose names are texts. -/
def ofMembers (members : List (String × Json)) : Json :=
  object (members.map fun (name, value) => (some name, value))

/-- An array of texts. -/
def ofTexts (texts : List String) : Json := array (texts.map ofText)

/-- The blanks that may stand between the parts of a document. -/
def isSpace (c : Char) : Bool :=
  c = ' ' || c = '\t' || c = '\n' || c = '\r'

end Json

end ImageTags
