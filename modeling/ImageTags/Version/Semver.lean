import ImageTags.Numeral
import ImageTags.Text.Split

/-!
# Semantic versions

Three numbers with points between them, after a hyphen the identifiers of a pre-release, after a
plus sign those of the build.  Numbers have no leading zeros, and those of the core fit in 64 bits.
The build says nothing about the order of versions and is dropped.

* `Semver.read?` — the strict form.
* `Semver.text` — the form without the build, which reads back as the same version.
* `Semver.readLoose?` — the strict form after one equals sign and one letter `v`, with blanks
  around each.
-/

namespace ImageTags

open Text

/-- A semantic version without its build. -/
structure Semver where
  major : Nat
  minor : Nat
  patch : Nat
  /-- The identifiers of the pre-release; a release has none. -/
  pre : List (List Char)
  deriving DecidableEq, Repr

namespace Semver

/-- The characters of identifiers. -/
def isIdentifierChar (c : Char) : Bool :=
  c.isAlphanum || c = '-'

/-- Whether a text is an identifier of a build. -/
def isIdentifier (cs : List Char) : Bool :=
  !cs.isEmpty && cs.all isIdentifierChar

/-- Whether a text has a zero in front of other characters. -/
def hasLeadingZero : List Char → Bool
  | '0' :: _ :: _ => true
  | _ => false

/-- Whether a text is an identifier of a pre-release: one that is a number has no leading zero. -/
def isPreIdentifier (cs : List Char) : Bool :=
  isIdentifier cs && !(cs.all Char.isDigit && hasLeadingZero cs)

/-- Reads a number of the core. -/
def readNumber? (cs : List Char) : Option Nat :=
  if hasLeadingZero cs then none else Numeral.readWord? cs

/-- The identifiers of a part of a version, none if the part is missing. -/
def identifiers? (valid : List Char → Bool) : Option (List Char) → Option (List (List Char))
  | none => some []
  | some part => if (splitEach '.' part).all valid then some (splitEach '.' part) else none

/-- Reads a version in the strict form. -/
def read? (cs : List Char) : Option Semver := do
  let (rest, build) := cutFirst '+' cs
  let (core, pre) := cutFirst '-' rest
  match splitEach '.' core with
  | [major, minor, patch] =>
    let major ← readNumber? major
    let minor ← readNumber? minor
    let patch ← readNumber? patch
    let pre ← identifiers? isPreIdentifier pre
    let _ ← identifiers? isIdentifier build
    some ⟨major, minor, patch, pre⟩
  | _ => none

/-- The text of a version without its build. -/
def text (v : Semver) : List Char :=
  joinWith ['.'] [Numeral.ofNat v.major, Numeral.ofNat v.minor, Numeral.ofNat v.patch] ++
    match v.pre with
    | [] => []
    | identifiers => '-' :: joinWith ['.'] identifiers

/-- Whether a character is the letter that may stand in front of a version. -/
def isVersionLetter (c : Char) : Bool :=
  c = 'v' || c = 'V'

/-- A text without the blanks around it and what may stand in front of a version. -/
def dropMarks (cs : List Char) : List Char :=
  trimStart (dropFirstIf isVersionLetter (trimStart (dropFirstIf (· = '=') (trim cs))))

/-- Reads a version that may have marks in front of it. -/
def readLoose? (cs : List Char) : Option Semver :=
  read? (dropMarks cs)

end Semver

end ImageTags
