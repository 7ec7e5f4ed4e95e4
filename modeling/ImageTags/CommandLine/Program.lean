import ImageTags.Builtin
import ImageTags.CommandLine.Listing

/-!
# The program

A run of the whole program: its arguments and the environment choose a command, and the command
prints and writes.  From here on the time zones, the engine and the disk are those that the program
brings along.
-/

namespace ImageTags

attribute [instance] Builtin.zones Builtin.engine Builtin.disk

/-- What a usage answer prints on the standard output, help texts apart. -/
def Usage.printed : Usage → String
  | .version => "tagsmith 0.1.0\n"
  | _ => ""

/-- A run of the program on a file tree while the clock shows `now`. -/
def runProgram (args : List String) (environment : List (String × String))
    (now : Calendar.Instant) (t : FileTree) : Except Usage Outcome := do
  match ← Command.parse environment args with
  | .generate settings => .ok (generate (.ofSettings settings) now t)
  | .rules settings => .ok (listRulesOn ((settings.lookup .tags).getD "") t)

/-- The exit code of a run. -/
def exitCode : Except Usage Outcome → Nat
  | .error usage => usage.exitCode
  | .ok outcome => if outcome.fault.isSome then 1 else 0

end ImageTags
