import ImageTags.Event.Payload
import ImageTags.Flavor
import ImageTags.Image
import ImageTags.Projection
import ImageTags.Resolve

/-!
# The metadata of a run

Everything that a run finds out, from its configuration, the event, the repository and the clock,
and nothing else: the names of its tags, its images and its labels.
-/

namespace ImageTags

/-- The directives of a run, and the name of the target in the document for build tools. -/
structure Configuration where
  images : List String
  tags : List String
  flavor : List String
  labels : List String
  buildTarget : String
  deriving DecidableEq, Repr

/-- The name of the build target of a run that does not choose one. -/
def Configuration.defaultBuildTarget : String := "docker-metadata-action"

/-- What a run finds out. -/
structure Metadata where
  version : ImageVersion
  images : List Image
  labels : LabelSet
  buildTarget : String
  deriving DecidableEq

namespace Metadata

/-- The metadata of a run at the instant `now`. -/
def compute [Calendar.Zones] [Pattern.Engine] (configuration : Configuration) (context : Context)
    (repository : Repository) (now : Calendar.Instant) : Except Failure Metadata := do
  let rules ← TagRule.parseAll configuration.tags
  let flavor ← Flavor.parse configuration.flavor
  let flavor ← flavor.render (Template.eventScope context now)
  let images ← Image.parseAll configuration.images
  let selection ← resolve context now rules
  let version := flavor.dress selection
  let labels := LabelSet.standard repository version.main? context.sha now flavor.labelStart
  .ok ⟨version, images, labels.overlay configuration.labels, configuration.buildTarget⟩

/-- The tags of the run in full. -/
def tags (m : Metadata) : List String :=
  Image.qualify m.images m.version.names

/-- The tags and labels as a document. -/
def tagDocument (m : Metadata) : TagDocument :=
  ⟨m.tags, m.labels⟩

/-- The run as a target for build tools. -/
def buildDocument (m : Metadata) : BuildDocument :=
  ⟨.ofEntries [(m.buildTarget,
    ⟨m.tags, m.labels, ",".intercalate (Image.enabledNames m.images), m.version.main?⟩)]⟩

end Metadata

end ImageTags
