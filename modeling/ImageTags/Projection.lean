import ImageTags.Failure
import ImageTags.Json.Decode
import ImageTags.Json.Printer
import ImageTags.Json.Reader
import ImageTags.Label

/-!
# Documents for build tools

The result of a run as JSON: its tags and labels alone, or as a target in the file that a build
tool reads.  Each document has a way into JSON, `toJson`, and one back, `ofJson?`.
-/

namespace ImageTags

open Json

/-! ## Tags and labels -/

/-- A dictionary of texts as an object. -/
def textsToJson (texts : Dictionary String) : Json :=
  ofMembers (texts.entries.map fun (key, value) => (key, ofText value))

/-- The tags and the labels of a run. -/
structure TagDocument where
  tags : List String
  labels : LabelSet
  deriving DecidableEq

namespace TagDocument

/-- The document as JSON. -/
def toJson (d : TagDocument) : Json :=
  ofMembers [("tags", ofTexts d.tags), ("labels", textsToJson d.labels)]

/-- The document that a JSON value describes. -/
def ofJson? (value : Json) : Option TagDocument := do
  let fields ← fields? ["tags", "labels"] 0 value
  let tags ← (fields.lookup "tags").bind (list? text?)
  let labels ← (fields.lookup "labels").bind (dictionary? text?)
  some ⟨tags, labels⟩

/-- Reads a document. -/
def parse (text : String) : Except Failure TagDocument :=
  match (Json.parse? text).bind ofJson? with
  | some d => .ok d
  | none => .error .payload

end TagDocument

/-! ## Build targets -/

/-- What a build tool is told about a target. -/
structure BuildTarget where
  tags : List String
  labels : LabelSet
  /-- The names of the images with commas between them. -/
  images : String
  version : Option String
  deriving DecidableEq

namespace BuildTarget

/-- The target as JSON; without a version there is no argument for it. -/
def toJson (t : BuildTarget) : Json :=
  ofMembers
    [("tags", ofTexts t.tags), ("labels", textsToJson t.labels),
     ("args", ofMembers (("IMAGES", ofText t.images) ::
       match t.version with
       | some version => [("VERSION", ofText version)]
       | none => []))]

/-- The arguments that a JSON value describes. -/
def arguments? (value : Json) : Option (String × Option String) := do
  let fields ← fields? ["IMAGES", "VERSION"] 1 value
  let images ← (fields.lookup "IMAGES").bind text?
  let version ← nullable? text? (fields.lookup "VERSION")
  some (images, version)

/-- The target that a JSON value describes. -/
def ofJson? (value : Json) : Option BuildTarget := do
  let fields ← fields? ["tags", "labels", "args"] 0 value
  let tags ← (fields.lookup "tags").bind (list? text?)
  let labels ← (fields.lookup "labels").bind (dictionary? text?)
  let (images, version) ← (fields.lookup "args").bind arguments?
  some ⟨tags, labels, images, version⟩

end BuildTarget

/-- The targets of a build by their names. -/
structure BuildDocument where
  targets : Dictionary BuildTarget
  deriving DecidableEq

namespace BuildDocument

/-- The document as JSON. -/
def toJson (d : BuildDocument) : Json :=
  ofMembers
    [("target", ofMembers (d.targets.entries.map fun (name, target) => (name, target.toJson)))]

/-- The document that a JSON value describes. -/
def ofJson? (value : Json) : Option BuildDocument := do
  let fields ← fields? ["target"] 0 value
  let targets ← (fields.lookup "target").bind (dictionary? BuildTarget.ofJson?)
  some ⟨targets⟩

/-- Reads a document. -/
def parse (text : String) : Except Failure BuildDocument :=
  match (Json.parse? text).bind ofJson? with
  | some d => .ok d
  | none => .error .payload

end BuildDocument

end ImageTags
