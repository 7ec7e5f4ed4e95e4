import ImageTags.Calendar.Zone
import ImageTags.Calendar.Format
import ImageTags.Event.Context
import ImageTags.Template.Render

/-!
# Expressions about the event

The names that a rule or a flavor can use in its templates: facts about the event, and two dates,
that of the run and that of the commit.  Any other name stands for the empty text.
-/

namespace ImageTags.Template

open Calendar

variable [Zones]

/-- The zone chosen by the options of a date; the last choice counts. -/
def zoneOf : Zone → List (String × String) → Except TemplateFault Zone
  | zone, [] => .ok zone
  | _, (key, value) :: options =>
    if key = "tz" then
      match Zones.ofName? value with
      | some zone => zoneOf zone options
      | none => .error (.unknownZone value)
    else .error (.unknownOption key)

/-- An instant in the zone that the options choose and in the format that the first argument
gives. -/
def dateText (t : Instant) (e : Expression) : Except TemplateFault String := do
  let zone ← zoneOf Zone.utc e.options
  let format := e.arguments.headD defaultFormat
  .ok (String.ofList (formatDate (zone.read t) format.toList))

/-- The values of expressions about an event, for a run at the instant `now`. -/
def eventScope (context : Context) (now : Instant) : Scope := fun e =>
  match e.name with
  | "branch" => .ok (context.branch?.getD "")
  | "tag" => .ok (context.tag?.getD "")
  | "sha" => .ok context.shortSha
  | "base_ref" => .ok context.baseRef
  | "is_default_branch" => .ok (if context.isDefaultBranch then "true" else "false")
  | "date" => dateText now e
  | "commit_date" => dateText context.commitDate e
  | _ => .ok ""

end ImageTags.Template
