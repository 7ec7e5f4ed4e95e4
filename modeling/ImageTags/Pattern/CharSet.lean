import ImageTags.Text.Blank
import ImageTags.Unicode.Alphabetic
import ImageTags.Unicode.CaseFolding
import ImageTags.Unicode.GeneralCategory

/-!
# Sets of characters

The character classes of a pattern: ranges, tables of a Unicode property, and what can be made of
them.  A set is an expression; `CharSet.contains` says what it means.
-/

namespace ImageTags.Pattern

/-- A set of characters. -/
inductive CharSet where
  | empty
  | range (first last : Char)
  | table (table : Unicode.CharTable)
  | union (s t : CharSet)
  | intersection (s t : CharSet)
  | difference (s t : CharSet)
  | symmetricDifference (s t : CharSet)
  | complement (s : CharSet)
  /-- The characters that have a case variant in the set. -/
  | variants (s : CharSet)
  /-- The same for the letters `A` to `Z` only. -/
  | asciiVariants (s : CharSet)

namespace CharSet

/-- Membership in a set. -/
def contains : CharSet → Char → Bool
  | empty, _ => false
  | range first last, c => first ≤ c && c ≤ last
  | table t, c => t.contains c
  | union s t, c => s.contains c || t.contains c
  | intersection s t, c => s.contains c && t.contains c
  | difference s t, c => s.contains c && !t.contains c
  | symmetricDifference s t, c => s.contains c != t.contains c
  | complement s, c => !s.contains c
  | variants s, c => (Unicode.caseVariants c).any s.contains
  | asciiVariants s, c => s.contains c || s.contains c.toLower || s.contains c.toUpper

/-- The set of one character. -/
def single (c : Char) : CharSet := range c c

/-- The set of all characters. -/
def all : CharSet := complement empty

/-- The union of several sets. -/
def unions (sets : List CharSet) : CharSet :=
  sets.foldr union empty

/-- The union of several ranges. -/
def ranges (pairs : List (Char × Char)) : CharSet :=
  unions (pairs.map fun (first, last) => range first last)

/-- The union of several tables. -/
def tables (tables : List Unicode.CharTable) : CharSet :=
  unions (tables.map table)

/-- A measure of how many runs of characters a set takes. -/
def size : CharSet → Nat
  | empty => 0
  | range _ _ => 1
  | table t => t.runs.length
  | union s t => s.size + t.size
  | intersection s t => s.size + t.size
  | difference s t => s.size + t.size
  | symmetricDifference s t => s.size + t.size
  | complement s => s.size
  | variants s => s.size
  | asciiVariants s => s.size

/-- Decimal digits. -/
def digit : CharSet := table Unicode.GeneralCategory.decimalNumber

/-- Blanks. -/
def blank : CharSet :=
  ranges [('\t', '\r'), (' ', ' '), ('\x85', '\x85'), ('\xa0', '\xa0'), ('\u1680', '\u1680'),
    ('\u2000', '\u200a'), ('\u2028', '\u2029'), ('\u202f', '\u202f'), ('\u205f', '\u205f'),
    ('\u3000', '\u3000')]

/-- The characters of words: letters, marks, digits, connectors and the two joiners. -/
def word : CharSet :=
  union
    (tables [Unicode.alphabetic, Unicode.GeneralCategory.nonspacingMark,
      Unicode.GeneralCategory.spacingMark, Unicode.GeneralCategory.enclosingMark,
      Unicode.GeneralCategory.decimalNumber, Unicode.GeneralCategory.connectorPunctuation])
    (range '\u200c' '\u200d')

/-- Decimal digits of ASCII. -/
def asciiDigit : CharSet := range '0' '9'

/-- Blanks of ASCII. -/
def asciiBlank : CharSet := ranges [('\t', '\r'), (' ', ' ')]

/-- The characters of words of ASCII. -/
def asciiWord : CharSet := ranges [('0', '9'), ('A', 'Z'), ('_', '_'), ('a', 'z')]

/-- The classes that are named inside brackets and colons. -/
def named : List (String × CharSet) :=
  [("alnum", ranges [('0', '9'), ('A', 'Z'), ('a', 'z')]),
   ("alpha", ranges [('A', 'Z'), ('a', 'z')]),
   ("ascii", range '\x00' '\x7f'),
   ("blank", ranges [('\t', '\t'), (' ', ' ')]),
   ("cntrl", ranges [('\x00', '\x1f'), ('\x7f', '\x7f')]),
   ("digit", asciiDigit),
   ("graph", range '!' '~'),
   ("lower", range 'a' 'z'),
   ("print", range ' ' '~'),
   ("punct", ranges [('!', '/'), (':', '@'), ('[', '\x60'), ('\x7b', '~')]),
   ("space", asciiBlank),
   ("upper", range 'A' 'Z'),
   ("word", asciiWord),
   ("xdigit", ranges [('0', '9'), ('A', 'F'), ('a', 'f')])]

end CharSet

end ImageTags.Pattern
