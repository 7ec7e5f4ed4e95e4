import ImageTags.Template.Expression

/-!
# Templates

A template is a text with expressions in double braces.  It is cut into pieces before anything is
known about the values of the expressions, so that a value is never read as a template again.

A template that cannot be cut to its end still has the pieces before that point; rendering fails
there, unless an expression before it fails first.
-/

namespace ImageTags.Template

open Text

/-- A piece of a template. -/
inductive Piece where
  | literal (text : String)
  | expression (expression : Expression)
  deriving DecidableEq, Repr

/-- The pieces of a template, and what is wrong after them if it could not be cut to its end. -/
structure Segmentation where
  pieces : List Piece
  stop : Option TemplateFault
  deriving DecidableEq, Repr

/-- The braces before an expression. -/
def opening : List Char := ['{', '{']

/-- The braces after an expression. -/
def closing : List Char := ['}', '}']

/-- Cuts a template into pieces. -/
def segment (cs : List Char) : Segmentation :=
  match _ho : splitAtText? opening cs with
  | none => ⟨[.literal (String.ofList cs)], none⟩
  | some (before, after) =>
    match _hc : splitAtText? closing after with
    | none => ⟨[.literal (String.ofList before)], some .unterminatedExpression⟩
    | some (inside, rest) =>
      match Expression.read inside with
      | .error fault => ⟨[.literal (String.ofList before)], some fault⟩
      | .ok expression =>
        let others := segment rest
        ⟨.literal (String.ofList before) :: .expression expression :: others.pieces, others.stop⟩
termination_by cs.length
decreasing_by
  have h₁ := congrArg List.length (eq_append_of_splitAtText? _ho)
  have h₂ := congrArg List.length (eq_append_of_splitAtText? _hc)
  simp only [List.length_append, opening, closing, List.length_cons, List.length_nil] at h₁ h₂
  omega

/-- What expressions stand for. -/
abbrev Scope := Expression → Except TemplateFault String

/-- The text of a piece. -/
def Piece.render (scope : Scope) : Piece → Except TemplateFault String
  | literal text => .ok text
  | expression e => scope e

/-- The texts of all pieces one after the other; the first failure wins. -/
def renderPieces (scope : Scope) : List Piece → Except TemplateFault String
  | [] => .ok ""
  | piece :: pieces => do
    let text ← piece.render scope
    let texts ← renderPieces scope pieces
    .ok (text ++ texts)

/-- The text of a segmentation, which fails at its end if the template could not be cut. -/
def Segmentation.render (scope : Scope) (s : Segmentation) : Except TemplateFault String := do
  let text ← renderPieces scope s.pieces
  match s.stop with
  | none => .ok text
  | some fault => .error fault

/-- Renders a template. -/
def render (scope : Scope) (template : String) : Except Failure String :=
  ((segment template.toList).render scope).mapError (.template template)

/-- Whether a template is nothing but one expression `raw`. -/
def isRawStatement (template : String) : Bool :=
  match (stripStart? opening (trim template.toList)).bind (stripEnd? closing) with
  | some inside => !containsText opening inside && trim inside == ['r', 'a', 'w']
  | none => false

end ImageTags.Template
