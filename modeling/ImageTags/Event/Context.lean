import ImageTags.Calendar.Instant
import ImageTags.Text.Split

/-!
# The triggering event

What is known about the run: the ref and the commit, the name of the event, the branches that
matter.  The kind of a ref decides which rules apply.
-/

namespace ImageTags

open Text

/-- What a fully qualified ref names. -/
inductive RefKind where
  | branch (name : String)
  | tag (name : String)
  | pullRequest (number : String)
  | other
  deriving DecidableEq, Repr

/-- The number in the ref of a pull request, without the last part that says which of its commits
is meant. -/
def pullRequestNumber (rest : String) : String :=
  ((beforeEnd? "/merge" rest).orElse fun _ => beforeEnd? "/head" rest).getD rest

/-- The kind of a ref. -/
def RefKind.ofRef (ref : String) : RefKind :=
  match afterStart? "refs/heads/" ref with
  | some name => .branch name
  | none =>
    match afterStart? "refs/tags/" ref with
    | some name => .tag name
    | none =>
      match afterStart? "refs/pull/" ref with
      | some rest => .pullRequest (pullRequestNumber rest)
      | none => .other

/-- The facts about the event that rules and templates can use. -/
structure Context where
  ref : String
  sha : String
  commitDate : Calendar.Instant
  eventName : String
  /-- The branch that a pull request goes to, or that a tag was made on. -/
  baseRef : String
  defaultBranch : String
  deriving DecidableEq, Repr

namespace Context

/-- The kind of the ref of the event. -/
def refKind (c : Context) : RefKind := RefKind.ofRef c.ref

/-- The branch that was pushed. -/
def branch? (c : Context) : Option String :=
  match c.refKind with
  | .branch name => some name
  | _ => none

/-- The tag that was pushed. -/
def tag? (c : Context) : Option String :=
  match c.refKind with
  | .tag name => some name
  | _ => none

/-- Whether the event was set off by a schedule. -/
def isSchedule (c : Context) : Bool :=
  mentions "schedule" c.eventName

/-- The first seven characters of the commit's name. -/
def shortSha (c : Context) : String :=
  String.ofList (c.sha.toList.take 7)

/-- The events that always run on the last commit of the default branch. -/
def defaultBranchEvents : List String := ["create", "discussion", "issues", "schedule"]

/-- Whether the event concerns the default branch. -/
def isDefaultBranch (c : Context) : Bool :=
  let branch := (afterStart? "refs/heads/" c.ref).getD c.ref
  branch ≠ "" &&
    ((c.defaultBranch ≠ "" && branch = c.defaultBranch) ||
      defaultBranchEvents.any (mentions · c.eventName))

end Context

end ImageTags
