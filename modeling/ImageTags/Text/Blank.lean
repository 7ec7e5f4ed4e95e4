/-!
# Blank characters

A blank is a character with the Unicode property `White_Space`.  Trimming removes the blanks at
the two ends of a text and leaves those inside.
-/

namespace ImageTags.Text

/-- The characters with the property `White_Space`. -/
def isBlank (c : Char) : Bool :=
  let n := c.toNat
  (9 ≤ n && n ≤ 13) || n == 0x20 || n == 0x85 || n == 0xA0 || n == 0x1680 ||
    (0x2000 ≤ n && n ≤ 0x200A) || n == 0x2028 || n == 0x2029 || n == 0x202F || n == 0x205F ||
    n == 0x3000

/-- A text without its leading blanks. -/
def trimStart (cs : List Char) : List Char :=
  cs.dropWhile isBlank

/-- A text without its trailing blanks. -/
def trimEnd (cs : List Char) : List Char :=
  (cs.reverse.dropWhile isBlank).reverse

/-- A text without the blanks at its two ends. -/
def trim (cs : List Char) : List Char :=
  trimEnd (trimStart cs)

/-- Whether a text consists of blanks only; the empty text does. -/
def allBlank (cs : List Char) : Bool :=
  cs.all isBlank

/-- The string `s` without the blanks at its two ends. -/
def trimmed (s : String) : String :=
  String.ofList (trim s.toList)

end ImageTags.Text
