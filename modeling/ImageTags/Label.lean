import ImageTags.Calendar.Timestamp
import ImageTags.Dictionary
import ImageTags.Event.Repository

/-!
# Labels

Every run gives its images eight standard labels about where they come from, and then the labels
that were configured.  A configured label with a key that is there already replaces its value and
leaves it in its place.
-/

namespace ImageTags

open Text

/-- A key with its value. -/
structure Label where
  key : String
  value : String
  deriving DecidableEq, Repr

/-- What can be wrong with a label. -/
inductive LabelFault where
  | emptyKey (text : String)
  deriving DecidableEq, Repr

/-- What is wrong with a label, in words. -/
def LabelFault.message : LabelFault → String
  | emptyKey text => "Empty key in label: " ++ text

namespace Label

/-- Reads a label: its key up to the first equals sign, and its value, empty if there is no equals
sign.  The key must not be empty. -/
def parse (text : String) : Except LabelFault Label :=
  let (key, value) := cutFirst '=' text.toList
  if key = [] then .error (.emptyKey text)
  else .ok ⟨String.ofList key, String.ofList (value.getD [])⟩

/-- A label in its written form. -/
def text (label : Label) : String :=
  label.key ++ "=" ++ label.value

end Label

/-- The labels of a run in their order. -/
abbrev LabelSet := Dictionary String

namespace LabelSet

/-- The keys of the standard labels after their common start. -/
def standardKeys : List String :=
  ["title", "description", "url", "source", "version", "created", "revision", "licenses"]

/-- The full key of a standard label. -/
def standardKey (name : String) : String :=
  "org.opencontainers.image." ++ name

/-- The standard labels of a run, with `start` in front of every key. -/
def standard (repository : Repository) (version : Option String) (revision : String)
    (created : Calendar.Instant) (start : Option String) : LabelSet :=
  let values :=
    [repository.name, repository.description, repository.url, repository.url, version.getD "",
     String.ofList created.timestamp, revision, repository.license]
  .ofEntries ((standardKeys.map fun key => start.getD "" ++ standardKey key).zip values)

/-- The labels with configured ones laid over them.  One without a key is dropped. -/
def overlay (labels : LabelSet) (entries : List String) : LabelSet :=
  entries.foldl (fun set entry =>
    match Label.parse entry with
    | .ok label => set.insert label.key label.value
    | .error _ => set) labels

/-- The labels one by one. -/
def toList (labels : LabelSet) : List Label :=
  labels.entries.map fun (key, value) => ⟨key, value⟩

/-- The labels in their written form. -/
def lines (labels : LabelSet) : List String :=
  (toList labels).map Label.text

end LabelSet

end ImageTags
