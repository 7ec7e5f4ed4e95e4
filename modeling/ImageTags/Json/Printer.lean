import ImageTags.Json.Basic

/-!
# Writing JSON

Values are written either without any blanks or laid out over several lines with two spaces for
each level.  Empty arrays and objects take no lines of their own.
-/

namespace ImageTags.Json

/-- What is put between the parts of a document. -/
structure Layout where
  /-- What precedes an element, and the closing bracket, at a depth. -/
  lineBreak : Nat → List Char
  /-- What stands between the name and the value of a member. -/
  colon : List Char

/-- No blanks at all. -/
def Layout.compact : Layout := ⟨fun _ => [], [':']⟩

/-- One line for each element, two spaces for each level. -/
def Layout.pretty : Layout :=
  ⟨fun depth => '\n' :: List.replicate (2 * depth) ' ', [':', ' ']⟩

/-- The hexadecimal digit, in lower case, of a number below 16. -/
def hexDigit (n : Nat) : Char := Nat.digitChar n

/-- A character inside a string. -/
def escape (c : Char) : List Char :=
  if c = '"' then ['\\', '"']
  else if c = '\\' then ['\\', '\\']
  else if c = '\x08' then ['\\', 'b']
  else if c = '\x0c' then ['\\', 'f']
  else if c = '\n' then ['\\', 'n']
  else if c = '\r' then ['\\', 'r']
  else if c = '\t' then ['\\', 't']
  else if c.toNat < 0x20 then
    ['\\', 'u', '0', '0', hexDigit (c.toNat / 16), hexDigit (c.toNat % 16)]
  else [c]

/-- A text as a string of a document. -/
def quoteText (s : String) : List Char :=
  '"' :: s.toList.flatMap escape ++ ['"']

/-- The content of a string; one that is no text is written empty. -/
def contentText (content : Option String) : List Char :=
  quoteText (content.getD "")

mutual

/-- A value as it stands at a depth of a document. -/
def write (layout : Layout) (depth : Nat) : Json → List Char
  | null => "null".toList
  | bool true => "true".toList
  | bool false => "false".toList
  | number numeral => numeral.toList
  | string content => contentText content
  | array [] => ['[', ']']
  | array (element :: elements) =>
    '[' :: writeElements layout (depth + 1) (element :: elements) ++
      layout.lineBreak depth ++ [']']
  | object [] => ['{', '}']
  | object (entry :: entries) =>
    '{' :: writeMembers layout (depth + 1) (entry :: entries) ++
      layout.lineBreak depth ++ ['}']

/-- The elements of an array with commas between them. -/
def writeElements (layout : Layout) (depth : Nat) : List Json → List Char
  | [] => []
  | [element] => layout.lineBreak depth ++ write layout depth element
  | element :: elements =>
    layout.lineBreak depth ++ write layout depth element ++ ',' ::
      writeElements layout depth elements

/-- The members of an object with commas between them. -/
def writeMembers (layout : Layout) (depth : Nat) : List (Option String × Json) → List Char
  | [] => []
  | [(name, value)] =>
    layout.lineBreak depth ++ contentText name ++ layout.colon ++ write layout depth value
  | (name, value) :: entries =>
    layout.lineBreak depth ++ contentText name ++ layout.colon ++ write layout depth value ++
      ',' :: writeMembers layout depth entries

end

/-- A document without blanks. -/
def compact (value : Json) : String :=
  String.ofList (write .compact 0 value)

/-- A document laid out over several lines. -/
def pretty (value : Json) : String :=
  String.ofList (write .pretty 0 value)

end ImageTags.Json
