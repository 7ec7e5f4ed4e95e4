import ImageTags.Failure
import ImageTags.Record
import ImageTags.Text.Lines
import ImageTags.Text.LowerCase

/-!
# Directives

Rules, flavors, images and labels are given as lists of directives, one on each line.  A directive
is a record whose fields are pairs of a key and a value, or bare words.
-/

namespace ImageTags.Directive

open Text

/-- The directives in a text of many lines: the lines without the blanks around them, except those
that are empty or start with `#`. -/
def list (text : String) : List String :=
  ((lines text.toList).map trim).filterMap fun line =>
    match line with
    | [] => none
    | '#' :: _ => none
    | c :: cs => some (String.ofList (c :: cs))

/-- The fields of a directive that are not blank. -/
def fields (directive : String) : Except Failure (List String) :=
  match Record.fields? directive.toList with
  | some fields => .ok (fields.map String.ofList)
  | none => .error (.unterminatedQuote directive)

/-- The key and the value of a field, split at the first equals sign: both without blanks around
them, the key in lower case.  A bare word has neither. -/
def pair? (field : String) : Option (String × String) :=
  (splitFirst? '=' field.toList).map fun (key, value) =>
    (String.ofList (lowerCase (trim key)), String.ofList (trim value))

/-- The directive that consists of the given fields. -/
def ofFields (fields : List String) : String :=
  String.ofList (Record.ofFields (fields.map String.toList))

end ImageTags.Directive
