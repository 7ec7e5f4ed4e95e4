import ImageTags.Rule.Order
import ImageTags.Selection
import ImageTags.TagName
import ImageTags.Template.EventScope

/-!
# From rules to a selection

Each rule that is switched on is asked for an offer.  A rule that does not apply to the event makes
none; that is no failure.

* `Rule.value?` — the value that a rule has for an event, with its opinion about the latest version.
* `TagRule.offer?` — the same with the texts that the rule puts around its value.
* `resolve` — the selection from the offers of all rules.
-/

namespace ImageTags

open Template

/-- A value for a tag, and an opinion whether it makes the latest version. -/
structure RuleValue where
  value : String
  latest : Option Bool
  deriving DecidableEq, Repr

/-! ## Versions -/

variable [Calendar.Zones]

/-- The name of the pushed tag with hyphens for its slashes. -/
def pushedTag? (context : Context) : Option String :=
  context.tag?.map fun tag => String.ofList (tag.toList.map fun c => if c = '/' then '-' else c)

/-- The text that a rule reads a version from: its own value if it has one, and else the pushed
tag. -/
def versionSource? (context : Context) (now : Calendar.Instant) (value : String) :
    Except Failure (Option String) :=
  if value = "" then .ok (pushedTag? context)
  else (render (eventScope context now) value).map some

/-- The pattern for a version that is not stable: a shortened version would pass for a release, so
only the full version and the text as it was given are allowed. -/
def unstablePattern (pattern : String) : String :=
  if isRawStatement pattern then pattern else "\x7b\x7bversion\x7d\x7d"

/-- The value of a version.  A stable version is the latest one, any other is not. -/
def VersionReading.value (pattern : String) (v : VersionReading) : Except Failure RuleValue := do
  let value ← render v.scope (if v.unstable then unstablePattern pattern else pattern)
  .ok ⟨value, some (!v.unstable)⟩

/-! ## Rules -/

variable [Pattern.Engine]

/-- The name of the commit in a format. -/
def shaText (context : Context) : ShaFormat → String
  | .short => context.shortSha
  | .long => context.sha

/-- The name that a rule about refs takes from a ref. -/
def refValue? : RefEvent → RefKind → Option RuleValue
  | .branch, .branch name => some ⟨TagName.clean name, none⟩
  | .tag, .tag name => some ⟨TagName.clean name, some true⟩
  | .pullRequest, .pullRequest number => some ⟨number, none⟩
  | _, _ => none

/-- The value that a rule has for an event in a run at the instant `now`; none if it does not
apply. -/
def Rule.value? (context : Context) (now : Calendar.Instant) :
    Rule → Except Failure (Option RuleValue)
  | .schedule pattern =>
    if context.isSchedule then do
      .ok (some ⟨← render (eventScope context now) pattern, none⟩)
    else .ok none
  | .version dialect pattern value => do
    match (← versionSource? context now value).bind dialect.read? with
    | some v => do .ok (some (← v.value pattern))
    | none => .ok none
  | .matching matcher group value => do
    let found := (← versionSource? context now value).bind (matcher.group? group)
    .ok (found.map fun part => ⟨part, some true⟩)
  | .edge branch =>
    let target := if branch = "" then context.defaultBranch else branch
    .ok (if context.branch? = some target then some ⟨"edge", none⟩ else none)
  | .ref event => .ok (refValue? event context.refKind)
  | .raw value => do
    .ok (some ⟨← render (eventScope context now) value, none⟩)
  | .sha format =>
    .ok (if context.sha = "" then none else some ⟨shaText context format, none⟩)

namespace TagRule

/-- Whether a rule is switched on. -/
def isEnabled (context : Context) (now : Calendar.Instant) (r : TagRule) : Except Failure Bool := do
  let text ← render (eventScope context now) r.enabling
  match String.ofList (Text.asciiLowerCase (Text.trim text.toList)) with
  | "true" => .ok true
  | "false" => .ok false
  | _ => .error (.enable text)

/-- The text that a rule puts at one side of its value, if it has an attribute for that. -/
def affix? (context : Context) (now : Calendar.Instant) (r : TagRule) (name : String) :
    Except Failure (Option String) :=
  match r.attributes.get? name with
  | some template => (render (eventScope context now) template).map some
  | none => .ok none

/-- What a rule offers for an event in a run at the instant `now`. -/
def offer? (context : Context) (now : Calendar.Instant) (r : TagRule) :
    Except Failure (Option Offer) := do
  if ← r.isEnabled context now then
    match ← r.rule.value? context now with
    | some found => do
      let front ← r.affix? context now "prefix"
      let back ← r.affix? context now "suffix"
      .ok (some ⟨⟨found.value, front, back⟩, found.latest⟩)
    | none => .ok none
  else .ok none

end TagRule

/-- The selection from the offers of rules, which are in the order of their use. -/
def resolve (context : Context) (now : Calendar.Instant) (rules : List TagRule) :
    Except Failure Selection := do
  let offers ← rules.mapM (TagRule.offer? context now)
  .ok (.ofOffers (offers.filterMap id))

end ImageTags
