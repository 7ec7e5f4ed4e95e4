import ImageTags.Directive
import ImageTags.Selection
import ImageTags.Template.Render

/-!
# Flavors

A flavor says how the candidates of a run are dressed to become names of tags: what is put in front
of them and behind them, and whether there is a tag `latest`.  It is given as directives; of two
that set the same thing the later counts.

* `Flavor.parse` — a flavor from its directives.
* `Flavor.dress` — the names of the tags of a selection.
-/

namespace ImageTags

open Text

/-- When there is a tag `latest`. -/
inductive LatestMode where
  /-- If the rules say so. -/
  | auto
  | always
  | never
  deriving DecidableEq, Repr

/-- The name of a mode. -/
def LatestMode.name : LatestMode → String
  | auto => "auto"
  | always => "true"
  | never => "false"

/-- The mode with a given name. -/
def LatestMode.ofName? : String → Option LatestMode
  | "auto" => some .auto
  | "true" => some .always
  | "false" => some .never
  | _ => none

/-- How the candidates of a run are dressed. -/
structure Flavor where
  latest : LatestMode
  /-- What is put in front of a candidate. -/
  front : String
  /-- What is put behind a candidate. -/
  back : String
  /-- Whether `front` is also put in front of `latest`. -/
  frontOnLatest : Bool
  /-- Whether `back` is also put behind `latest`. -/
  backOnLatest : Bool
  /-- What is put in front of the keys of the standard labels. -/
  labelStart : Option String
  deriving DecidableEq, Repr

namespace Flavor

/-- The flavor of a run that configures none. -/
def plain : Flavor := ⟨.auto, "", "", false, false, none⟩

instance : Inhabited Flavor := ⟨plain⟩

/-! ## Reading -/

/-- What one field of a flavor says. -/
inductive Setting where
  | latest (mode : LatestMode)
  | front (text : String)
  | back (text : String)
  /-- Whether the text that the directive set last is put on `latest` as well. -/
  | onLatest (on : Bool)
  | labelStart (text : String)
  deriving DecidableEq, Repr

/-- Reads a field of a flavor. -/
def Setting.read (field : String) : Except FlavorFault Setting :=
  match Directive.pair? field with
  | none => .error (.notAPair (trimmed field))
  | some (key, value) =>
    match key with
    | "latest" =>
      match LatestMode.ofName? value with
      | some mode => .ok (.latest mode)
      | none => .error (.badLatest value)
    | "prefix" => .ok (.front value)
    | "suffix" => .ok (.back value)
    | "onlatest" =>
      match value with
      | "true" => .ok (.onLatest true)
      | "false" => .ok (.onLatest false)
      | _ => .error (.badOnLatest value)
    | "labelprefix" => .ok (.labelStart value)
    | _ => .error (.unknownKey key)

/-- Reads the fields of a directive. -/
def readSettings (directive : String) : Except Failure (List Setting) := do
  let fields ← Directive.fields directive
  (fields.mapM Setting.read).mapError (.flavor directive)

/-- The sides of a candidate. -/
inductive Side where
  | front
  | back
  deriving DecidableEq, Repr

/-- A flavor after a directive: each setting replaces what was set before.  `last` is the side that
the directive set last, to which `onLatest` refers; it refers to nothing if there is none. -/
def applySettings (last : Option Side) : Flavor → List Setting → Flavor
  | f, [] => f
  | f, .latest mode :: settings => applySettings last { f with latest := mode } settings
  | f, .front text :: settings => applySettings (some .front) { f with front := text } settings
  | f, .back text :: settings => applySettings (some .back) { f with back := text } settings
  | f, .onLatest on :: settings =>
    match last with
    | some .front => applySettings last { f with frontOnLatest := on } settings
    | some .back => applySettings last { f with backOnLatest := on } settings
    | none => applySettings last f settings
  | f, .labelStart text :: settings =>
    applySettings last { f with labelStart := some text } settings

/-- Reads a flavor from its directives. -/
def parse (directives : List String) : Except Failure Flavor := do
  let settings ← directives.mapM readSettings
  .ok (settings.foldl (applySettings none) plain)

/-- A flavor whose texts have been rendered. -/
def render (scope : Template.Scope) (f : Flavor) : Except Failure Flavor := do
  let front ← Template.render scope f.front
  let back ← Template.render scope f.back
  .ok { f with front, back }

/-! ## Dressing -/

/-- The tag `latest` with what the flavor puts on it. -/
def latestTag (f : Flavor) : String :=
  (if f.frontOnLatest then f.front else "") ++ "latest" ++ (if f.backOnLatest then f.back else "")

/-- The name of the tag for a candidate. -/
def compose (f : Flavor) (c : Candidate) : String :=
  c.front.getD f.front ++ c.value ++ c.back.getD f.back

/-- Whether a selection gets a tag `latest`. -/
def marksLatest (f : Flavor) (s : Selection) : Bool :=
  match f.latest with
  | .auto => s.isLatest
  | .always => true
  | .never => false

end Flavor

/-- The names of the tags of a run. -/
structure ImageVersion where
  /-- The name for the main candidate and then the others, each once. -/
  names : List String
  /-- Whether the run makes the latest version. -/
  latest : Bool
  deriving DecidableEq, Repr

/-- The version of a run without a candidate. -/
def ImageVersion.none : ImageVersion := ⟨[], false⟩

instance : Inhabited ImageVersion := ⟨ImageVersion.none⟩

/-- The name for the main candidate. -/
def ImageVersion.main? (v : ImageVersion) : Option String := v.names.head?

/-- Names with one more behind them, unless it is there already. -/
def ImageVersion.addName (names : List String) (name : String) : List String :=
  if name ∈ names then names else names ++ [name]

/-- The names for a selection, dressed by a flavor.  Without a candidate there is no name at all,
whatever the flavor says about `latest`. -/
def Flavor.dress (f : Flavor) (s : Selection) : ImageVersion :=
  match s.candidates with
  | [] => .none
  | main :: others =>
    let latest := f.marksLatest s
    let later := others.map f.compose ++ if latest then [f.latestTag] else []
    ⟨later.foldl ImageVersion.addName [f.compose main], latest⟩

end ImageTags
