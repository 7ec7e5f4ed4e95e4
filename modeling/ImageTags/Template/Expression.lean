import ImageTags.Failure
import ImageTags.Text.Blank
import ImageTags.Text.Split

/-!
# Expressions

The inside of a pair of double braces: words with blanks between them.  The first word is the name;
a word with an equals sign after its first character is an option; any other word is an argument.

A part of a word in single or double quotes may hold blanks; the quotes themselves are dropped.  A
word that starts with a quote is an argument whatever it holds.
-/

namespace ImageTags.Template

open Text

/-- A word of an expression without its quotes. -/
structure Word where
  text : List Char
  /-- Whether the word starts with a quote. -/
  quoted : Bool
  deriving DecidableEq, Repr

/-- Both kinds of quotes, each of which closes itself only. -/
def isQuote (c : Char) : Bool :=
  c = '\'' || c = '"'

/-- Where a reader of words stands. -/
inductive WordPlace where
  | between
  | inside
  /-- Inside a part in quotes that `quote` closes. -/
  | quoted (quote : Char)
  deriving DecidableEq, Repr

/-- The words of a text that is read on at a place: the rest of the word under way, and the words
after it.  It fails if a quote is never closed. -/
def wordsFrom : WordPlace → List Char → Except TemplateFault (List Char × List Word)
  | .quoted _, [] => .error .unterminatedString
  | _, [] => .ok ([], [])
  | .quoted q, c :: cs =>
    if c = q then wordsFrom .inside cs
    else (wordsFrom (.quoted q) cs).map fun (rest, words) => (c :: rest, words)
  | .inside, c :: cs =>
    if isBlank c then (wordsFrom .between cs).map fun (_, words) => ([], words)
    else if isQuote c then wordsFrom (.quoted c) cs
    else (wordsFrom .inside cs).map fun (rest, words) => (c :: rest, words)
  | .between, c :: cs =>
    if isBlank c then wordsFrom .between cs
    else if isQuote c then
      (wordsFrom (.quoted c) cs).map fun (rest, words) => ([], ⟨rest, true⟩ :: words)
    else
      (wordsFrom .inside cs).map fun (rest, words) => ([], ⟨c :: rest, false⟩ :: words)

/-- The words of an expression. -/
def words (cs : List Char) : Except TemplateFault (List Word) :=
  (wordsFrom .between cs).map Prod.snd

/-- An expression: a name, arguments, and options with their values. -/
structure Expression where
  name : String
  arguments : List String
  options : List (String × String)
  deriving DecidableEq, Repr

/-- The key and the value of a word that is an option. -/
def Word.option? (w : Word) : Option (String × String) :=
  match splitFirst? '=' w.text with
  | some (key, value) =>
    if w.quoted ∨ key = [] then none else some (String.ofList key, String.ofList value)
  | none => none

/-- The argument that a word is unless it is an option. -/
def Word.argument? (w : Word) : Option String :=
  match w.option? with
  | some _ => none
  | none => some (String.ofList w.text)

/-- Reads the inside of a pair of double braces. -/
def Expression.read (cs : List Char) : Except TemplateFault Expression := do
  match ← words cs with
  | [] => .error .emptyExpression
  | name :: rest =>
    .ok ⟨String.ofList name.text, rest.filterMap Word.argument?, rest.filterMap Word.option?⟩

end ImageTags.Template
