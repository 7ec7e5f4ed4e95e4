import ImageTags.Numeral
import ImageTags.Text.Split
import ImageTags.Text.Ways

/-!
# PEP 440 versions

The permissive spelling of versions: an epoch, the numbers of the release, a
pre-release, a post-release, a development release and a local label, each but the release
optional.  A pattern says how the parts are spelled, and the way in which it matches first says
where each of them starts and ends; what was found is then read as numbers and labels.

* `Pep440.pattern` — the pattern, `Pep440.Parts` what it finds.
* `Pep440.read?` — reads any spelling.
* `Pep440.text` — the one normal spelling.
-/

namespace ImageTags

open Text

/-- The phases before a release. -/
inductive Phase where
  | alpha
  | beta
  | candidate
  deriving DecidableEq, Repr

/-- The phase that a name stands for. -/
def Phase.ofName (name : List Char) : Phase :=
  match name.map Char.toLower with
  | ['a'] | ['a', 'l', 'p', 'h', 'a'] => .alpha
  | ['b'] | ['b', 'e', 't', 'a'] => .beta
  | _ => .candidate

/-- A version by PEP 440. -/
structure Pep440 where
  epoch : Nat
  /-- The first number of the release. -/
  major : Nat
  /-- The numbers of the release after the first. -/
  others : List Nat
  pre : Option (Phase × Nat)
  post : Option Nat
  dev : Option Nat
  /-- The segments of the local label; a version without one has none. -/
  label : List (List Char)
  deriving DecidableEq, Repr

namespace Pep440

/-! ## Letters and separators -/

/-- A character in the spelling that versions are compared by: a Latin letter in lower case.  Apart
from the capital letters, two characters have a small Latin letter as their case variant. -/
def plainLetter (c : Char) : Char :=
  if c = 'ſ' then 's' else if c = '\u212a' then 'k' else c.toLower

/-- The characters that may stand between the parts of a version. -/
def isSeparator (c : Char) : Bool :=
  c = '-' || c = '_' || c = '.'

/-- Whether a character is the letter that may stand in front of a version. -/
def isVersionLetter (c : Char) : Bool :=
  plainLetter c = 'v'

/-- The characters of the segments of a local label. -/
def isLabelChar (c : Char) : Bool :=
  (plainLetter c).isLower || c.isDigit

/-! ## Names of parts -/

/-- The names of the phases, in the order in which they are tried. -/
def phaseNames : List (List Char) :=
  [['a', 'l', 'p', 'h', 'a'], ['a'], ['b', 'e', 't', 'a'], ['b'],
   ['p', 'r', 'e', 'v', 'i', 'e', 'w'], ['p', 'r', 'e'], ['c'], ['r', 'c']]

/-- The names of a post-release. -/
def postNames : List (List Char) :=
  [['p', 'o', 's', 't'], ['r', 'e', 'v'], ['r']]

/-- The name of a development release. -/
def devNames : List (List Char) :=
  [['d', 'e', 'v']]

/-- A name at the start of a text, as it is written there, and what follows it.  The case of its
letters does not matter. -/
def spanName? : (name : List Char) → List Char → Option (List Char × List Char)
  | [], cs => some ([], cs)
  | _ :: _, [] => none
  | n :: ns, c :: cs =>
    if plainLetter c = n then (spanName? ns cs).map fun (word, rest) => (c :: word, rest)
    else none

/-- One of some names. -/
def anyName (names : List (List Char)) : Ways (List Char) := fun cs =>
  names.filterMap (spanName? · cs)

/-! ## The pattern -/

/-- What is written for the parts of a version. -/
structure Parts where
  /-- The digits of the epoch. -/
  epoch : Option (List Char) := none
  /-- The numbers of the release with the points between them. -/
  release : List Char := []
  /-- The name of a pre-release, and its digits if there are any. -/
  pre : Option (List Char × Option (List Char)) := none
  /-- The digits of a post-release if there are any. -/
  post : Option (Option (List Char)) := none
  /-- The digits of a development release if there are any. -/
  dev : Option (Option (List Char)) := none
  /-- The local label without its plus sign. -/
  label : Option (List Char) := none
  deriving DecidableEq, Repr

open Ways

/-- One of some names with the digits after it.  A separator may stand in front of the name and one
after it, and the digits may be left out. -/
def named (names : List (List Char)) : Ways (List Char × Option (List Char)) := do
  let _ ← opt (one isSeparator)
  let word ← anyName names
  let _ ← opt (one isSeparator)
  let digits ← opt (many1 Char.isDigit)
  return (word, digits)

/-- The digits of a post-release after a mere hyphen. -/
def barePost : Ways (Option (List Char)) := do
  let _ ← one (· = '-')
  let digits ← many1 Char.isDigit
  return some digits

/-- The digits of a post-release after one of its names. -/
def namedPost : Ways (Option (List Char)) := do
  return (← named postNames).2

/-- The digits of a development release. -/
def namedDev : Ways (Option (List Char)) := do
  return (← named devNames).2

/-- Nothing but blanks. -/
def toEnd : Ways Unit := do
  let _ ← many isBlank
  atEnd

/-- A local label, and nothing after it but blanks. -/
def fromLabel : Ways Parts := do
  let label ← opt do
    let _ ← one (· = '+')
    separated isSeparator isLabelChar
  toEnd
  return { label }

/-- A development release and the parts after it. -/
def fromDev : Ways Parts := do
  let dev ← opt namedDev
  let parts ← fromLabel
  return { parts with dev }

/-- A post-release and the parts after it. -/
def fromPost : Ways Parts := do
  let post ← opt (either barePost namedPost)
  let parts ← fromDev
  return { parts with post }

/-- A pre-release and the parts after it. -/
def fromPre : Ways Parts := do
  let pre ← opt (named phaseNames)
  let parts ← fromPost
  return { parts with pre }

/-- The numbers of a release and the parts after it. -/
def fromRelease : Ways Parts := do
  let release ← separated (· = '.') Char.isDigit
  let parts ← fromPre
  return { parts with release }

/-- An epoch in front of an exclamation mark and the parts after it. -/
def fromEpoch : Ways Parts := do
  let epoch ← opt do
    let digits ← many1 Char.isDigit
    let _ ← one (· = '!')
    return digits
  let parts ← fromRelease
  return { parts with epoch }

/-- A whole version; blanks may stand around it and one letter `v` in front of it. -/
def pattern : Ways Parts := do
  let _ ← many isBlank
  let _ ← opt (one isVersionLetter)
  fromEpoch

/-! ## Reading and writing -/

/-- The value of some digits, 0 if there are none or it does not fit in 64 bits. -/
def number (digits : Option (List Char)) : Nat :=
  (digits.bind Numeral.readWord?).getD 0

/-- The runs of characters between separators. -/
def segments : List Char → List (List Char)
  | [] => [[]]
  | c :: cs =>
    if isSeparator c then [] :: segments cs
    else
      match segments cs with
      | [] => [[c]]
      | segment :: others => (c :: segment) :: others

/-- The version that is written; none if a number of the release does not fit in 64 bits.  The
letters `A` to `Z` of the local label are put into lower case. -/
def Parts.version? (parts : Parts) : Option Pep440 := do
  let release ← (splitEach '.' parts.release).mapM Numeral.readWord?
  let major ← release.head?
  return {
    epoch := number parts.epoch
    major
    others := release.tail
    pre := parts.pre.map fun (name, digits) => (Phase.ofName name, number digits)
    post := parts.post.map number
    dev := parts.dev.map number
    label := (parts.label.map fun label => segments (label.map Char.toLower)).getD [] }

/-- Reads a version. -/
def read? (cs : List Char) : Option Pep440 :=
  (pattern.first? cs).bind Parts.version?

/-- The second number of the release, 0 if it has one only. -/
def minor (v : Pep440) : Nat := v.others.headD 0

/-- The third number of the release, 0 if it has none. -/
def patch (v : Pep440) : Nat := v.others.tail.headD 0

/-- A version that is not a release, or comes after one without being the next. -/
def isUnstable (v : Pep440) : Bool :=
  v.pre.isSome || v.post.isSome || v.dev.isSome

/-- The normal name of a phase. -/
def phaseText : Phase → List Char
  | .alpha => ['a']
  | .beta => ['b']
  | .candidate => ['r', 'c']

/-- The local label of a version, with points between its segments. -/
def labelText? (v : Pep440) : Option (List Char) :=
  if v.label = [] then none else some (joinWith ['.'] v.label)

/-- The normal spelling of a version. -/
def text (v : Pep440) : List Char :=
  (if v.epoch > 0 then Numeral.ofNat v.epoch ++ ['!'] else []) ++
  joinWith ['.'] ((v.major :: v.others).map Numeral.ofNat) ++
  (match v.pre with
    | some (phase, n) => phaseText phase ++ Numeral.ofNat n
    | none => []) ++
  (match v.post with
    | some n => ['.', 'p', 'o', 's', 't'] ++ Numeral.ofNat n
    | none => []) ++
  (match v.dev with
    | some n => ['.', 'd', 'e', 'v'] ++ Numeral.ofNat n
    | none => []) ++
  (match v.labelText? with
    | some label => '+' :: label
    | none => [])

end Pep440

end ImageTags
