import ImageTags.CommandLine.Program
import Std.Time.DateTime.Timestamp

/-!
# The executable

Reads the arguments, the environment, the clock and the files, runs the program, and prints and
writes what it yields.  Nothing is decided here.
-/

namespace ImageTags

/-- The fault that an error of the system is. -/
def FileFault.ofError : IO.Error → FileFault
  | .noFileOrDirectory _ _ _ => .missing
  | .alreadyExists _ _ _ => .occupied
  | .inappropriateType _ 20 _ => .notADirectory
  | .inappropriateType _ 21 _ => .isADirectory
  | error => .other (toString error)

/-- An action on files with its fault. -/
def attempt {α : Type} (action : IO α) : IO (Except FileFault α) := do
  match ← action.toBaseIO with
  | .ok a => return .ok a
  | .error error => return .error (.ofError error)

/-- Reads the text of a file. -/
def readText (path : String) : IO (Except FileFault String) := do
  match ← attempt (IO.FS.readBinFile path) with
  | .error fault => return .error fault
  | .ok bytes =>
    match String.fromUTF8? bytes with
    | some text => return .ok text
    | none => return .error .notText

/-- Whether a path leads to something. -/
def isThere (path : String) : IO Bool := do
  match ← (IO.FS.realPath path).toBaseIO with
  | .ok _ => return true
  | .error _ => return false

/-- The files that the main command may read, as they are before it does anything. -/
def viewInputs (o : Options) : IO FileView := do
  let inputs ← (o.eventPath.toList ++ o.repositoryFile.toList).mapM fun (path : String) => do
    return (path, ← isThere path, ← readText path)
  return ⟨fun path => (inputs.lookup path).any (·.1),
    fun path => ((inputs.lookup path).map (·.2)).getD (.error .missing)⟩

/-- Writes one of the files of a run. -/
def Delivery.write (outputs : Outputs) : Delivery → IO Unit
  | .json path => writeBelow path outputs.json
  | .build path => writeBelow path outputs.buildFile
  | .steps path => do
    let handle ← IO.FS.Handle.mk path .append
    for (name, value) in outputs.entries do
      handle.putStr (StepOutput.block name value)
where
  /-- Writes a file, after making the directories that it lies in. -/
  writeBelow (path text : String) : IO Unit := do
    let above := "/".intercalate (Path.pieces path).dropLast
    unless above.isEmpty do IO.FS.createDirAll above
    IO.FS.writeFile path text

/-- Says on the standard error why a run failed. -/
def RunFault.report (fault : RunFault) : IO Unit := do
  let lines := fault.circumstance?.toList ++ fault.cause?.toList
  IO.eprintln ("Error: " ++ ": ".intercalate lines)

/-- Writes files up to the first that cannot be written. -/
def deliver (outputs : Outputs) : List Delivery → IO UInt32
  | [] => return 0
  | delivery :: deliveries => do
    match ← attempt (delivery.write outputs) with
    | .ok () => deliver outputs deliveries
    | .error fault => do
      (RunFault.undelivered delivery fault).report
      return 1

/-- The main command. -/
def runGenerate (o : Options) (now : Calendar.Instant) : IO UInt32 := do
  match o.outputs now (← viewInputs o) with
  | .error fault => do
    fault.report
    return 1
  | .ok outputs => do
    IO.print outputs.blocks
    deliver outputs o.deliveries

/-- The command that lists rules. -/
def runRules (tags : String) : IO UInt32 := do
  match listRules tags with
  | .ok text => do
    IO.print text
    return 0
  | .error failure => do
    (RunFault.invalid failure).report
    return 1

/-- The variables of the environment that set parameters. -/
def readEnvironment : IO (List (String × String)) := do
  let names := Parameter.all.filterMap Parameter.environmentName?
  let values ← names.mapM fun name => do
    return (← IO.getEnv name).map (name, ·)
  return values.filterMap id

/-- What the clock shows. -/
def readClock : IO Calendar.Instant := do
  let now ← Std.Time.Timestamp.now
  let nanoseconds := now.toNanosecondsSinceUnixEpoch.val
  return ⟨nanoseconds / 1000000000, (nanoseconds % 1000000000).toNat⟩

end ImageTags

open ImageTags in
/-- Runs the program. -/
def main (args : List String) : IO UInt32 := do
  let environment ← readEnvironment
  match Command.parse environment args with
  | .error usage => do
    IO.print usage.printed
    return UInt32.ofNat usage.exitCode
  | .ok (.generate settings) => runGenerate (.ofSettings settings) (← readClock)
  | .ok (.rules settings) => runRules ((settings.lookup .tags).getD "")
