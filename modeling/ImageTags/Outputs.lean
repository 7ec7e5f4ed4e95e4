import ImageTags.Metadata
import ImageTags.StepOutput

/-!
# The outputs of a run

Six named texts, rendered from the metadata of a run.
-/

namespace ImageTags

/-- The outputs of a run. -/
structure Outputs where
  version : String
  tags : String
  tagNames : String
  labels : String
  json : String
  buildFile : String
  deriving DecidableEq, Repr

namespace Outputs

/-- Renders the outputs; the two texts stand between tags and between labels. -/
def render (m : Metadata) (betweenTags betweenLabels : String) : Outputs :=
  { version := m.version.main?.getD ""
    tags := betweenTags.intercalate m.tags
    tagNames := betweenTags.intercalate m.version.names
    labels := betweenLabels.intercalate (LabelSet.lines m.labels)
    json := m.tagDocument.toJson.pretty
    buildFile := m.buildDocument.toJson.pretty }

/-- The outputs with their names, in their order. -/
def entries (o : Outputs) : List (String × String) :=
  [("version", o.version), ("tags", o.tags), ("tag-names", o.tagNames), ("labels", o.labels),
   ("json", o.json), ("bake-file", o.buildFile)]

/-- All outputs as blocks for the steps that follow. -/
def blocks (o : Outputs) : String :=
  String.join (o.entries.map fun (name, value) => StepOutput.block name value)

end Outputs

end ImageTags
