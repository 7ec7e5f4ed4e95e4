import ImageTags.Text.Blank
import ImageTags.Text.Split

/-!
# Records

A record is one line of configuration: fields with commas between them.  A field that starts with
a double quote, after spaces and tabs, runs to the closing quote and may hold commas; inside it a
quote is written twice.  What follows the closing quote up to the next comma belongs to the field
as it stands.

`fieldsFrom` reads a record in one pass.  `ofFields` writes one so that its fields are read back.
-/

namespace ImageTags.Record

open Text

/-- Where a reader stands inside a field. -/
inductive Place where
  /-- Nothing but spaces and tabs so far: a quote opens the quoted part. -/
  | start
  /-- Past the start: a quote stands for itself. -/
  | tail
  /-- Between the opening and the closing quote. -/
  | quoted
  deriving DecidableEq, Repr

/-- Puts a character in front of the first field. -/
def consField (c : Char) : List (List Char) → List (List Char)
  | [] => [[c]]
  | field :: fields => (c :: field) :: fields

/-- The fields of a text that is read on at a place inside a field; the first of them is the rest
of that field.  There are none if a quote is never closed. -/
def fieldsFrom : Place → List Char → Option (List (List Char))
  | .quoted, [] => none
  | _, [] => some [[]]
  | .quoted, '"' :: '"' :: cs => (fieldsFrom .quoted cs).map (consField '"')
  | .quoted, '"' :: cs => fieldsFrom .tail cs
  | .quoted, c :: cs => (fieldsFrom .quoted cs).map (consField c)
  | .start, c :: cs =>
    if c = ',' then (fieldsFrom .start cs).map ([] :: ·)
    else if c = '"' then fieldsFrom .quoted cs
    else if c = ' ' ∨ c = '\t' then (fieldsFrom .start cs).map (consField c)
    else (fieldsFrom .tail cs).map (consField c)
  | .tail, c :: cs =>
    if c = ',' then (fieldsFrom .start cs).map ([] :: ·)
    else (fieldsFrom .tail cs).map (consField c)

/-- The fields of a record that are not blank, as written between the commas and quotes; none if a
quote is never closed. -/
def fields? (cs : List Char) : Option (List (List Char)) :=
  (fieldsFrom .start cs).map (·.filter fun field => !allBlank field)

/-- A text with every quote in it doubled. -/
def doubleQuotes (cs : List Char) : List Char :=
  cs.flatMap fun c => if c = '"' then ['"', '"'] else [c]

/-- The written form of a field: in quotes if it holds a comma or a quote. -/
def quoteField (field : List Char) : List Char :=
  if ',' ∈ field ∨ '"' ∈ field then '"' :: doubleQuotes field ++ ['"'] else field

/-- The record that consists of the given fields. -/
def ofFields (fields : List (List Char)) : List Char :=
  joinWith [','] (fields.map quoteField)

end ImageTags.Record
