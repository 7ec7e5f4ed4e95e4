import ImageTags.Calendar.Timestamp
import ImageTags.Event.Context
import ImageTags.Event.Repository
import ImageTags.Failure
import ImageTags.Json.Decode
import ImageTags.Json.Reader

/-!
# Event payloads

The JSON document that comes with an event, as far as it matters: the repository, the date of the
head commit, the base of a pushed tag, and both ends of a pull request.  Every part may be absent.

`Context.ofTrigger` puts the context of a run together from the payload and the few facts that are
known without it.
-/

namespace ImageTags

open Json

/-- What a payload says. -/
structure Payload where
  repository : Option Repository
  /-- The date of the head commit. -/
  timestamp : Option String
  baseRef : Option String
  /-- The branch that a pull request goes to. -/
  pullBase : Option String
  /-- The head commit of a pull request. -/
  pullHead : Option String
  deriving DecidableEq, Repr

/-- The payload of an event without one. -/
def Payload.empty : Payload := ⟨none, none, none, none, none⟩

instance : Inhabited Payload := ⟨Payload.empty⟩

/-! ## Reading -/

/-- The short name of a licence. -/
def licenseName? (value : Json) : Option (Option String) := do
  let fields ← fields? ["spdx_id"] 0 value
  nullable? text? (fields.lookup "spdx_id")

/-- A repository as hosting servers describe it. -/
def Repository.ofJson? (value : Json) : Option Repository := do
  let fields ← fields? ["name", "description", "html_url", "default_branch", "license"] 0 value
  let name ← nullable? text? (fields.lookup "name")
  let description ← nullable? text? (fields.lookup "description")
  let url ← nullable? text? (fields.lookup "html_url")
  let defaultBranch ← nullable? text? (fields.lookup "default_branch")
  let license ← nullable? licenseName? (fields.lookup "license")
  some ⟨name.getD "", description.getD "", url.getD "", defaultBranch.getD "",
    license.join.getD ""⟩

/-- The date of a commit. -/
def commitTimestamp? (value : Json) : Option (Option String) := do
  let fields ← fields? ["timestamp"] 0 value
  nullable? text? (fields.lookup "timestamp")

/-- The ref and the commit at one end of a pull request. -/
def pullEnd? (value : Json) : Option (Option String × Option String) := do
  let fields ← fields? ["ref", "sha"] 0 value
  let ref ← nullable? text? (fields.lookup "ref")
  let sha ← nullable? text? (fields.lookup "sha")
  some (ref, sha)

/-- The ref of the base and the commit of the head of a pull request. -/
def pullRequest? (value : Json) : Option (Option String × Option String) := do
  let fields ← fields? ["base", "head"] 0 value
  let base ← nullable? pullEnd? (fields.lookup "base")
  let head ← nullable? pullEnd? (fields.lookup "head")
  some (base.bind Prod.fst, head.bind Prod.snd)

/-- What a document says as a payload. -/
def Payload.ofJson? (value : Json) : Option Payload := do
  let fields ← fields? ["repository", "head_commit", "base_ref", "pull_request"] 0 value
  let repository ← nullable? Repository.ofJson? (fields.lookup "repository")
  let timestamp ← nullable? commitTimestamp? (fields.lookup "head_commit")
  let baseRef ← nullable? text? (fields.lookup "base_ref")
  let pull ← nullable? pullRequest? (fields.lookup "pull_request")
  some ⟨repository, timestamp.join, baseRef, pull.bind Prod.fst, pull.bind Prod.snd⟩

/-- Reads a payload. -/
def Payload.parse (text : String) : Except Failure Payload :=
  match (Json.parse? text).bind ofJson? with
  | some payload => .ok payload
  | none => .error .payload

/-- Reads the description of a repository. -/
def Repository.parse (text : String) : Except Failure Repository :=
  match (Json.parse? text).bind ofJson? with
  | some repository => .ok repository
  | none => .error .payload

/-! ## The context of a run -/

/-- What is known about an event without its payload. -/
structure Trigger where
  ref : String
  sha : String
  eventName : String
  /-- Whether the head commit of a pull request stands in for the commit of the event. -/
  usePullHead : Bool
  deriving DecidableEq, Repr

/-- The commit that a run is about. -/
def Trigger.commit (t : Trigger) (payload : Payload) : String :=
  match t.usePullHead, RefKind.ofRef t.ref, payload.pullHead with
  | true, .pullRequest _, some head => if head = "" then t.sha else head
  | _, _, _ => t.sha

/-- The branch that a tag was made on or that a pull request goes to. -/
def Payload.baseOf (payload : Payload) : RefKind → String
  | .tag _ =>
    match payload.baseRef with
    | some ref => (Text.afterStart? "refs/heads/" ref).getD ref
    | none => ""
  | .pullRequest _ => payload.pullBase.getD ""
  | _ => ""

/-- The default branch by the payload, or by what else is known about the repository. -/
def Payload.defaultBranch (payload : Payload) (repository : Repository) : String :=
  match payload.repository with
  | some r => if r.defaultBranch = "" then repository.defaultBranch else r.defaultBranch
  | none => repository.defaultBranch

/-- The context of a run at the instant `now`, which also is the date of a commit that has none. -/
def Context.ofTrigger (t : Trigger) (payload : Payload) (repository : Repository)
    (now : Calendar.Instant) : Context :=
  { ref := t.ref
    sha := t.commit payload
    commitDate :=
      ((payload.timestamp.bind fun s => Calendar.Instant.ofTimestamp? s.toList)).getD now
    eventName := t.eventName
    baseRef := payload.baseOf (RefKind.ofRef t.ref)
    defaultBranch := payload.defaultBranch repository }

end ImageTags
