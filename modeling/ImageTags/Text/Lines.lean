import ImageTags.Text.Split

/-!
# Lines

A line ends at a line feed, or at a carriage return and a line feed.  The last line needs no end;
a carriage return that ends the text without a line feed belongs to its line.
-/

namespace ImageTags.Text

/-- A line without the carriage return before its line feed. -/
def dropReturn (line : List Char) : List Char :=
  (stripEnd? ['\r'] line).getD line

/-- The lines of a text, without their ends. -/
def lines (cs : List Char) : List (List Char) :=
  let pieces := splitEach '\n' cs
  let ended := pieces.dropLast.map dropReturn
  match pieces.getLast? with
  | some (c :: last) => ended ++ [c :: last]
  | _ => ended

end ImageTags.Text
