import ImageTags.CommandLine.Options
import ImageTags.FileTree
import ImageTags.Outputs

/-!
# The main command

A run of the main command has two parts.  First it finds its outputs, for which it reads files but
changes none; whatever is wrong with its input shows here.  Then it prints the outputs and writes
the files it was asked for, one after the other, up to the first that cannot be written.

* `Options.outputs` — the first part.
* `Options.deliveries`, `deliverAll` — the second.
* `generate` — both on a file tree.
-/

namespace ImageTags

/-! ## Faults -/

/-- The files that a run can write. -/
inductive Delivery where
  | json (path : String)
  | build (path : String)
  /-- The outputs are added at the end of this file. -/
  | steps (path : String)
  deriving DecidableEq, Repr

/-- Why a run fails. -/
inductive RunFault where
  | timestampRange (seconds : Int)
  | payloadUnreadable (path : String) (fault : FileFault)
  | payloadInvalid (path : String) (failure : Failure)
  | repositoryUnreadable (path : String) (fault : FileFault)
  | repositoryInvalid (path : String) (failure : Failure)
  | invalid (failure : Failure)
  | undelivered (delivery : Delivery) (fault : FileFault)
  deriving DecidableEq, Repr

/-- What a run was about when it failed, in words. -/
def RunFault.circumstance? : RunFault → Option String
  | timestampRange seconds =>
    some ("Timestamp " ++ String.ofList (Numeral.ofInt seconds) ++ " is out of range")
  | payloadUnreadable path _ => some ("Failed to load event payload " ++ path)
  | payloadInvalid path _ => some ("Failed to load event payload " ++ path)
  | repositoryUnreadable path _ => some ("Failed to read repository file " ++ path)
  | repositoryInvalid path _ => some ("Invalid repository file " ++ path)
  | invalid _ => none
  | undelivered (.json path) _ => some ("Failed to write JSON output " ++ path)
  | undelivered (.build path) _ => some ("Failed to write bake file " ++ path)
  | undelivered (.steps path) _ => some ("Failed to append step outputs to " ++ path)

/-- A fault of a file that the run handles itself, in words. -/
def fileFaultMessage (fault : FileFault) : String :=
  "I/O error: " ++ fault.message

/-- What went wrong, in words. -/
def RunFault.cause? : RunFault → Option String
  | timestampRange _ => none
  | payloadUnreadable _ fault => some (fileFaultMessage fault)
  | payloadInvalid _ failure => some failure.message
  | repositoryUnreadable _ fault => some fault.message
  | repositoryInvalid _ failure => some failure.message
  | invalid failure => some failure.message
  | undelivered _ fault => some (fileFaultMessage fault)

/-! ## Finding the outputs -/

/-- How a run sees the files under their paths. -/
structure FileView where
  isThere : String → Bool
  read : String → Except FileFault String

/-- The files of a tree. -/
def FileTree.view [Disk] (t : FileTree) : FileView :=
  ⟨t.isThere, t.read⟩

/-- The instant of a run; the clock shows `now`. -/
def Options.instant (o : Options) (now : Calendar.Instant) : Except RunFault Calendar.Instant :=
  match o.timestamp with
  | none => .ok now
  | some seconds =>
    if Calendar.Instant.earliest ≤ seconds ∧ seconds ≤ Calendar.Instant.latest then
      .ok ⟨seconds, 0⟩
    else .error (.timestampRange seconds)

/-- The payload of the event; an event whose file is not there has none. -/
def Options.payload (o : Options) (view : FileView) : Except RunFault Payload :=
  match o.eventPath with
  | none => .ok .empty
  | some path =>
    if view.isThere path then
      match view.read path with
      | .ok text => (Payload.parse text).mapError (.payloadInvalid path)
      | .error fault => .error (.payloadUnreadable path fault)
    else .ok .empty

/-- What is known about the repository: from its own file, from the payload, or from its slug. -/
def Options.repositoryFacts (o : Options) (view : FileView) (payload : Payload) :
    Except RunFault Repository :=
  match o.repositoryFile with
  | some path =>
    match view.read path with
    | .ok text => (Repository.parse text).mapError (.repositoryInvalid path)
    | .error fault => .error (.repositoryUnreadable path fault)
  | none => .ok (payload.repository.getD (.ofSlug o.repository o.serverUrl))

/-- The outputs of a run. -/
def Options.outputs [Calendar.Zones] [Pattern.Engine] (o : Options) (now : Calendar.Instant)
    (view : FileView) : Except RunFault Outputs := do
  let now ← o.instant now
  let payload ← o.payload view
  let repository ← o.repositoryFacts view payload
  let context := Context.ofTrigger o.trigger payload repository now
  let metadata ← (Metadata.compute o.configuration context repository now).mapError .invalid
  .ok (Outputs.render metadata o.tagSeparator o.labelSeparator)

/-! ## Writing the files -/

/-- The files that a run writes, in their order. -/
def Options.deliveries (o : Options) : List Delivery :=
  (o.jsonFile.map .json).toList ++ (o.buildFile.map .build).toList ++
    (o.stepFile.map .steps).toList

/-- Writes one of the files of a run. -/
def Delivery.perform [Disk] (outputs : Outputs) (t : FileTree) : Delivery → FileTree.Change
  | .json path => t.write path outputs.json
  | .build path => t.write path outputs.buildFile
  | .steps path =>
    t.append path (outputs.entries.map fun (name, value) => StepOutput.block name value)

/-- What a run leaves behind. -/
structure Outcome where
  /-- What was printed. -/
  printed : String
  tree : FileTree
  fault : Option RunFault
  deriving DecidableEq

/-- Writes files up to the first that cannot be written. -/
def deliverAll [Disk] (outputs : Outputs) (t : FileTree) :
    List Delivery → FileTree × Option RunFault
  | [] => (t, none)
  | delivery :: deliveries =>
    let change := delivery.perform outputs t
    match change.fault with
    | some fault => (change.tree, some (.undelivered delivery fault))
    | none => deliverAll outputs change.tree deliveries

/-- A run of the main command on a file tree while the clock shows `now`. -/
def generate [Calendar.Zones] [Pattern.Engine] [Disk] (o : Options) (now : Calendar.Instant)
    (t : FileTree) : Outcome :=
  match o.outputs now t.view with
  | .error fault => ⟨"", t, some fault⟩
  | .ok outputs =>
    let (tree, fault) := deliverAll outputs t o.deliveries
    ⟨outputs.blocks, tree, fault⟩

end ImageTags
