import ImageTags.Directive

/-!
# Images

The images of a run, each with a name.  A disabled image is checked but gets no tags.  Images are
written either one to a directive or, if there is one directive only and no field of it has an
equals sign, as a list of bare names.
-/

namespace ImageTags

open Text

/-- An image and whether it gets tags. -/
structure Image where
  name : String
  enabled : Bool
  deriving DecidableEq, Repr

namespace Image

/-- The image after one more field of its directive. -/
def applyField (image : Image) (field : String) : Except ImageFault Image :=
  match Directive.pair? field with
  | none => .ok { image with name := trimmed field }
  | some ("name", value) => .ok { image with name := value }
  | some ("enable", "true") => .ok { image with enabled := true }
  | some ("enable", "false") => .ok { image with enabled := false }
  | some ("enable", _) => .error .badEnable
  | some _ => .error .unknownAttribute

/-- The image that the fields of a directive describe.  It must have a name. -/
def ofFields (fields : List String) : Except ImageFault Image := do
  let image ← fields.foldlM applyField ⟨"", true⟩
  if image.name = "" then .error .emptyName else .ok image

/-- Reads a directive. -/
def parse (directive : String) : Except Failure Image := do
  let fields ← Directive.fields directive
  (ofFields fields).mapError (.image directive)

/-- The images of a list of bare names; none if a field has an equals sign. -/
def ofNames? (fields : List String) : Option (List Image) :=
  if fields.any fun field => '=' ∈ field.toList then none
  else some (fields.map fun field => ⟨trimmed field, true⟩)

/-- Reads the images of a run. -/
def parseAll : List String → Except Failure (List Image)
  | [directive] => do
    match ofNames? (← Directive.fields directive) with
    | some images => .ok images
    | none => do .ok [← parse directive]
  | directives => directives.mapM parse

/-- The names of the images that get tags. -/
def enabledNames (images : List Image) : List String :=
  (images.filter (·.enabled)).map (·.name)

/-- The tags of a run in full: each image, in lower case, with each name.  Without an image they
are the names alone. -/
def qualify (images : List Image) (names : List String) : List String :=
  match enabledNames images with
  | [] => names
  | enabled => enabled.flatMap fun image => names.map fun name => lowerCased image ++ ":" ++ name

end Image

end ImageTags
