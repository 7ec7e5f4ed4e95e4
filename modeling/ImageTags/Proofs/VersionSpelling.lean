import Mathlib.Tactic.Lemma
import ImageTags.Version.Pep440

/-!
# Spellings of a version

A version can be spelled in many ways: with zeros in front of its numbers, with any of the labels of
a part in any case, with or without separators, with numbers left out where they are 0, with blanks
around it and a letter in front.  A `Spelling` is one choice of all of that.

* `Spelling` — a choice of everything that may vary, and `Spelling.text`.
* `Spelling.Spells` — which version it spells.
* `InRange` — the versions whose numbers fit in 64 bits.
-/

namespace ImageTags

namespace Pep440

open Text

/-! ## Labels -/

/-- The labels of the phases. -/
def phaseLabels : Phase → List (List Char)
  | .alpha => [['a'], ['a', 'l', 'p', 'h', 'a']]
  | .beta => [['b'], ['b', 'e', 't', 'a']]
  | .candidate => [['c'], ['r', 'c'], ['p', 'r', 'e'], ['p', 'r', 'e', 'v', 'i', 'e', 'w']]

/-- The labels of a pre-release. -/
def preLabels : List (List Char) :=
  phaseLabels .alpha ++ phaseLabels .beta ++ phaseLabels .candidate

/-- The labels of a post-release. -/
def postLabels : List (List Char) := [['p', 'o', 's', 't'], ['r', 'e', 'v'], ['r']]

/-- The label of a development release. -/
def devLabels : List (List Char) := [['d', 'e', 'v']]

/-- The characters that may stand before and after a label and between segments. -/
def separators : List Char := ['-', '_', '.']

/-! ## Spellings -/

/-- A number as it is written, which may have zeros in front. -/
structure Digits where
  text : List Char
  ne_nil : text ≠ []
  isDigit : ∀ c ∈ text, c.isDigit = true

/-- The value of a number. -/
def Digits.value (digits : Digits) : Nat := Numeral.value digits.text

/-- A part with a label: a separator or none before it and after it, the label in any case, and a
number, which may be left out. -/
structure NamedSpelling (labels : List (List Char)) where
  before : Option Char
  name : List Char
  after : Option Char
  digits : Option Digits
  before_mem : ∀ c ∈ before, c ∈ separators
  name_mem : name.map Char.toLower ∈ labels
  after_mem : ∀ c ∈ after, c ∈ separators

/-- A post-release: a hyphen and a number, or a part with a label. -/
inductive PostSpelling where
  | bare (digits : Digits)
  | named (part : NamedSpelling postLabels)

/-- A local label: segments of letters and digits with one separator between two of them. -/
structure LabelSpelling where
  segment : List Char
  others : List (Char × List Char)
  segment_ne_nil : segment ≠ []
  segment_isAlphanum : ∀ c ∈ segment, c.isAlphanum = true
  others_spelled : ∀ x ∈ others,
    x.1 ∈ separators ∧ x.2 ≠ [] ∧ ∀ c ∈ x.2, c.isAlphanum = true

/-- One way to write a version. -/
structure Spelling where
  blanks : List Char
  letter : Option Char
  epoch : Option Digits
  major : Digits
  others : List Digits
  pre : Option (NamedSpelling preLabels)
  post : Option PostSpelling
  dev : Option (NamedSpelling devLabels)
  label : Option LabelSpelling
  trailing : List Char
  blanks_allBlank : allBlank blanks = true
  letter_mem : ∀ c ∈ letter, c = 'v' ∨ c = 'V'
  /-- A hyphen and a number would be taken for the number that a pre-release leaves out. -/
  pre_clear : ∀ part ∈ pre, part.digits = none → ∀ digits, post ≠ some (.bare digits)
  trailing_allBlank : allBlank trailing = true

/-- The text of an optional part; there is none where the part is left out. -/
def optText {α : Type} (text : α → List Char) (part : Option α) : List Char :=
  (part.map text).getD []

@[simp] lemma optText_some {α : Type} (text : α → List Char) (part : α) :
    optText text (some part) = text part := rfl

@[simp] lemma optText_none {α : Type} (text : α → List Char) : optText text none = [] := rfl

/-- The text of a part with a label. -/
def NamedSpelling.text {labels : List (List Char)} (part : NamedSpelling labels) : List Char :=
  part.before.toList ++ (part.name ++ (part.after.toList ++ optText Digits.text part.digits))

/-- The text of a post-release. -/
def PostSpelling.text : PostSpelling → List Char
  | bare digits => '-' :: digits.text
  | named part => part.text

/-- The number of a post-release, which only a part with a label can leave out. -/
def PostSpelling.digits : PostSpelling → Option Digits
  | bare digits => some digits
  | named part => part.digits

/-- The text of a local label. -/
def LabelSpelling.text (label : LabelSpelling) : List Char :=
  label.segment ++ label.others.flatMap fun x => x.1 :: x.2

namespace Spelling

/-- The text of a release. -/
def release (s : Spelling) : List Char := joinWith ['.'] ((s.major :: s.others).map Digits.text)

/-- The text behind the post-release. -/
def afterPost (s : Spelling) : List Char :=
  optText NamedSpelling.text s.dev ++
    (optText (fun label => '+' :: label.text) s.label ++ s.trailing)

/-- The text behind the release. -/
def afterRelease (s : Spelling) : List Char :=
  optText NamedSpelling.text s.pre ++ (optText PostSpelling.text s.post ++ s.afterPost)

/-- The text of a version. -/
def text (s : Spelling) : List Char :=
  s.blanks ++ (s.letter.toList ++ (optText (fun digits => digits.text ++ ['!']) s.epoch ++
    (s.release ++ s.afterRelease)))

/-- The text of a version as far as its local label, and something else instead of that. -/
def upToLabel (s : Spelling) (rest : List Char) : List Char :=
  s.blanks ++ (s.letter.toList ++ (optText (fun digits => digits.text ++ ['!']) s.epoch ++
    (s.release ++ (optText NamedSpelling.text s.pre ++ (optText PostSpelling.text s.post ++
      (optText NamedSpelling.text s.dev ++ rest))))))

lemma text_eq_upToLabel (s : Spelling) :
    s.text = s.upToLabel (optText (fun label => '+' :: label.text) s.label ++ s.trailing) := rfl

end Spelling

/-! ## What is spelled -/

/-- A number that is left out is 0. -/
def optValue (digits : Option Digits) : Nat := (digits.map Digits.value).getD 0

/-- The segments of a local label, with their letters in lower case. -/
def LabelSpelling.segments (label : LabelSpelling) : List (List Char) :=
  (label.segment :: label.others.map Prod.snd).map (·.map Char.toLower)

/-- Whether a spelling spells a version. -/
structure Spelling.Spells (s : Spelling) (v : Pep440) : Prop where
  epoch : optValue s.epoch = v.epoch
  major : s.major.value = v.major
  others : s.others.map Digits.value = v.others
  pre : Option.Rel (fun part x => part.name.map Char.toLower ∈ phaseLabels x.1 ∧
    optValue part.digits = x.2) s.pre v.pre
  post : s.post.map (fun post => optValue post.digits) = v.post
  dev : s.dev.map (fun part => optValue part.digits) = v.dev
  label : (s.label.map LabelSpelling.segments).getD [] = v.label

/-- Whether all numbers of a version fit in 64 bits. -/
structure InRange (v : Pep440) : Prop where
  epoch : v.epoch ≤ Numeral.maxWord
  major : v.major ≤ Numeral.maxWord
  others : ∀ n ∈ v.others, n ≤ Numeral.maxWord
  pre : ∀ x ∈ v.pre, x.2 ≤ Numeral.maxWord
  post : ∀ n ∈ v.post, n ≤ Numeral.maxWord
  dev : ∀ n ∈ v.dev, n ≤ Numeral.maxWord

end Pep440

end ImageTags
