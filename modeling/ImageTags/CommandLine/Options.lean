import ImageTags.CommandLine.Arguments
import ImageTags.Metadata

/-!
# Options of the main command

The settings of the main command as values of their types, with those filled in that are not set.
-/

namespace ImageTags

/-- Everything that can be told to the main command. -/
structure Options where
  images : String
  tags : String
  flavor : String
  labels : String
  tagSeparator : String
  labelSeparator : String
  buildTarget : String
  jsonFile : Option String
  buildFile : Option String
  /-- The file that the outputs are added to for the steps that follow. -/
  stepFile : Option String
  ref : String
  sha : String
  eventName : String
  eventPath : Option String
  usePullHead : Bool
  repositoryFile : Option String
  repository : String
  serverUrl : String
  /-- The instant of the run, in seconds since the start of 1970. -/
  timestamp : Option Int
  deriving DecidableEq, Repr

/-- The options that settings stand for. -/
def Options.ofSettings (s : Settings) : Options :=
  let text (p : Parameter) (default : String) : String := (s.lookup p).getD default
  { images := text .images ""
    tags := text .tags ""
    flavor := text .flavor ""
    labels := text .labels ""
    tagSeparator := text .tagSeparator "\n"
    labelSeparator := text .labelSeparator "\n"
    buildTarget := text .buildTarget Configuration.defaultBuildTarget
    jsonFile := s.lookup .jsonFile
    buildFile := s.lookup .buildFile
    stepFile := s.lookup .stepFile
    ref := text .ref ""
    sha := text .sha ""
    eventName := text .eventName ""
    eventPath := s.lookup .eventPath
    usePullHead := s.lookup .pullHead = some "true"
    repositoryFile := s.lookup .repositoryFile
    repository := text .repository ""
    serverUrl := text .serverUrl "https://github.com"
    timestamp := (s.lookup .timestamp).bind fun value => Numeral.readSigned? value.toList }

/-- What is known about the event without its payload. -/
def Options.trigger (o : Options) : Trigger :=
  ⟨o.ref, o.sha, o.eventName, o.usePullHead⟩

/-- The directives of the run. -/
def Options.configuration (o : Options) : Configuration :=
  { images := Directive.list o.images
    tags := Directive.list o.tags
    flavor := Directive.list o.flavor
    labels := Directive.list o.labels
    buildTarget := o.buildTarget }

end ImageTags
