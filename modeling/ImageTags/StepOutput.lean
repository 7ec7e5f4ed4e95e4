import ImageTags.Numeral
import ImageTags.Text.Lines

/-!
# Step outputs

A step hands its outputs on as blocks of lines.  A block starts with the name of the output and a
delimiter, and ends with the delimiter on a line of its own; the lines between are the value.  The
delimiter is the first of a numbered series that is no line of the value.
-/

namespace ImageTags.StepOutput

open Text

/-- The delimiter of number `n`. -/
def delimiter (n : Nat) : List Char :=
  "ghadelimiter_".toList ++ Numeral.ofNat n

/-- The number of the first delimiter that is not among some lines.  There is one among the first
as many as there are lines, and one more. -/
def firstFree (lines : List (List Char)) : Nat :=
  ((List.range (lines.length + 1)).find? fun n => delimiter n ∉ lines).getD 0

/-- The delimiter of the block for a value. -/
def delimiterFor (value : List Char) : List Char :=
  delimiter (firstFree (lines value))

/-- The block for an output. -/
def block (name value : String) : String :=
  let mark := delimiterFor value.toList
  String.ofList
    (name.toList ++ ['<', '<'] ++ mark ++ '\n' :: value.toList ++ '\n' :: mark ++ ['\n'])

end ImageTags.StepOutput
