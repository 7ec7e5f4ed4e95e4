/-!
# Parameters

What can be set on the command line.  Most parameters can be set by a variable of the environment
too, and some have a value if they are not set at all.
-/

namespace ImageTags

/-- The parameters of the commands. -/
inductive Parameter where
  | images
  | tags
  | flavor
  | labels
  | tagSeparator
  | labelSeparator
  | buildTarget
  | jsonFile
  | buildFile
  | stepFile
  | ref
  | sha
  | eventName
  | eventPath
  | pullHead
  | repositoryFile
  | repository
  | serverUrl
  | timestamp
  deriving DecidableEq, Repr

/-- The kinds of values. -/
inductive ValueKind where
  | text
  /-- A path, which is not empty. -/
  | path
  /-- Stands for itself on the command line, and is `true` or `false` elsewhere. -/
  | switch
  /-- An integer of 64 bits. -/
  | integer
  deriving DecidableEq, Repr

namespace Parameter

/-- All parameters, in the order in which the environment is searched for them. -/
def all : List Parameter :=
  [.images, .tags, .flavor, .labels, .tagSeparator, .labelSeparator, .buildTarget, .jsonFile,
   .buildFile, .stepFile, .ref, .sha, .eventName, .eventPath, .pullHead, .repositoryFile,
   .repository, .serverUrl, .timestamp]

/-- The name of the option, without its hyphens. -/
def name : Parameter → String
  | images => "images"
  | tags => "tags"
  | flavor => "flavor"
  | labels => "labels"
  | tagSeparator => "sep-tags"
  | labelSeparator => "sep-labels"
  | buildTarget => "bake-target"
  | jsonFile => "output-json"
  | buildFile => "bake-file"
  | stepFile => "github-output"
  | ref => "ref"
  | sha => "sha"
  | eventName => "event-name"
  | eventPath => "event-path"
  | pullHead => "pr-head-sha"
  | repositoryFile => "repo-json"
  | repository => "repository"
  | serverUrl => "server-url"
  | timestamp => "timestamp"

/-- The variable of the environment. -/
def environmentName? : Parameter → Option String
  | images => some "INPUT_IMAGES"
  | tags => some "INPUT_TAGS"
  | flavor => some "INPUT_FLAVOR"
  | labels => some "INPUT_LABELS"
  | tagSeparator => some "INPUT_SEP_TAGS"
  | labelSeparator => some "INPUT_SEP_LABELS"
  | buildTarget => some "INPUT_BAKE_TARGET"
  | jsonFile => some "INPUT_OUTPUT_JSON"
  | buildFile => some "INPUT_BAKE_FILE"
  | stepFile => some "GITHUB_OUTPUT"
  | ref => some "GITHUB_REF"
  | sha => some "GITHUB_SHA"
  | eventName => some "GITHUB_EVENT_NAME"
  | eventPath => some "GITHUB_EVENT_PATH"
  | pullHead => some "DOCKER_METADATA_PR_HEAD_SHA"
  | repositoryFile => none
  | repository => some "GITHUB_REPOSITORY"
  | serverUrl => some "GITHUB_SERVER_URL"
  | timestamp => some "SOURCE_DATE_EPOCH"

/-- The kind of the values of a parameter. -/
def kind : Parameter → ValueKind
  | jsonFile => .path
  | buildFile => .path
  | stepFile => .path
  | eventPath => .path
  | repositoryFile => .path
  | pullHead => .switch
  | timestamp => .integer
  | _ => .text

end Parameter

end ImageTags
