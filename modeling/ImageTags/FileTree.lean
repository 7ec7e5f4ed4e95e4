import ImageTags.Dictionary
import ImageTags.Text.Split

/-!
# File trees

The files and directories of a system, with the operations on them that a run needs and the faults
that these have.  Paths are read as they are by the system: one that starts with a slash starts at
the root, any other at the directory in which the run takes place; a step is made from a directory
only, `.` stays where it is, `..` goes back, which leads nowhere else from the root, and a path that
ends with a slash asks for a directory.  There are no links.

Where the tree has nothing against an operation, the disk may still refuse it, and it may stop in
the middle of a write.  A file is emptied when it is opened to be written anew, so that a write that
fails after that has left a beginning of what was to be written.

* `Disk` — what is left to the disk.
* `FileTree.isThere`, `FileTree.read`, `FileTree.write`, `FileTree.append` — the operations of a
  run.
-/

namespace ImageTags

/-- What can be wrong with an operation on a file. -/
inductive FileFault where
  | missing
  | notADirectory
  | isADirectory
  | occupied
  /-- The bytes of a file are no text. -/
  | notText
  | other (text : String)
  deriving DecidableEq, Repr

namespace FileFault

/-- What is wrong, in the words of the system. -/
def message : FileFault → String
  | missing => "No such file or directory (os error 2)"
  | notADirectory => "Not a directory (os error 20)"
  | isADirectory => "Is a directory (os error 21)"
  | occupied => "File exists (os error 17)"
  | notText => "stream did not contain valid UTF-8"
  | other text => text

end FileFault

/-! ## Paths -/

/-- A path by its steps. -/
structure Path where
  /-- Whether the path starts at the root. -/
  absolute : Bool
  steps : List String
  /-- Whether the path asks for a directory. -/
  directory : Bool
  deriving DecidableEq, Repr

namespace Path

/-- The pieces of a path between its slashes. -/
def pieces (path : String) : List String :=
  (Text.splitEach '/' path.toList).map String.ofList

/-- Reads a path. -/
def ofString (path : String) : Path :=
  ⟨(Text.stripStart? ['/'] path.toList).isSome, (pieces path).filter (· ≠ ""),
    (pieces path).getLast? = some ""⟩

/-- The steps to the directory that a path leads through last. -/
def parentSteps (path : Path) : List String :=
  (path.steps.filter (· ≠ ".")).dropLast

end Path

/-! ## Trees -/

/-- What stands at a place of a tree. -/
inductive Node where
  | file (bytes : ByteArray)
  | directory

instance : DecidableEq Node
  | .file bytes, .file bytes' =>
    decidable_of_iff (bytes.data = bytes'.data) (by simp [ByteArray.ext_iff])
  | .directory, .directory => isTrue rfl
  | .file _, .directory => isFalse nofun
  | .directory, .file _ => isFalse nofun

/-- The name of a place, written with slashes. -/
def placeName (place : List String) : String :=
  "/".intercalate place

/-- The files and directories of a system by the names of their places. -/
structure FileTree where
  nodes : Dictionary Node
  /-- The place of the directory in which the run takes place. -/
  home : List String
  deriving DecidableEq

namespace FileTree

/-- What stands at a place. -/
def node? (t : FileTree) (place : List String) : Option Node :=
  if place = [] then some .directory else t.nodes.get? (placeName place)

/-- Puts something at a place. -/
def put (t : FileTree) (place : List String) (node : Node) : FileTree :=
  { t with nodes := t.nodes.insert (placeName place) node }

/-- What the file with a given name holds. -/
def file? (t : FileTree) (name : String) : Option ByteArray :=
  match t.nodes.get? name with
  | some (.file bytes) => some bytes
  | _ => none

/-- The place that a step leads to. -/
def step (t : FileTree) (place : List String) (name : String) : Except FileFault (List String) :=
  match t.node? place with
  | some .directory =>
    .ok (if name = "." then place else if name = ".." then place.dropLast else place ++ [name])
  | some (.file _) => .error .notADirectory
  | none => .error .missing

/-- The place that several steps lead to; there need be nothing at it. -/
def walk (t : FileTree) (start steps : List String) : Except FileFault (List String) :=
  steps.foldlM t.step start

/-- The place at which a path starts. -/
def start (t : FileTree) (path : Path) : List String :=
  if path.absolute then [] else t.home

/-- The place that a path leads to.  The empty path leads nowhere. -/
def locate (t : FileTree) (path : Path) : Except FileFault (List String) :=
  if path.absolute ∨ path.steps ≠ [] then t.walk (t.start path) path.steps else .error .missing

end FileTree

/-! ## The disk -/

/-- What a run wants with a file or a directory. -/
inductive Access where
  /-- To see whether it is there. -/
  | finding
  | reading
  | writing
  | making
  deriving DecidableEq, Repr

/-- What happens on a disk apart from what the tree shows. -/
class Disk where
  /-- Why an access to a place is refused though the tree allows it, if it is. -/
  refusal? : Access → FileTree → (place : List String) → Option FileFault
  /-- Of the bytes that are written behind those of a file: how many get there before the write
  stops, and what is wrong then; none if all of them get there. -/
  stop? : FileTree → (place : List String) → ByteArray → Option (Nat × FileFault)

/-! ## Operations -/

/-- The tree after an operation, which may have changed it before it failed. -/
structure FileTree.Change where
  tree : FileTree
  fault : Option FileFault
  deriving DecidableEq

namespace FileTree

variable [Disk]

/-- Whether a path is seen to lead to something. -/
def isThere (t : FileTree) (path : String) : Bool :=
  let path := Path.ofString path
  match t.locate path with
  | .ok place =>
    match t.node? place with
    | some (.file _) => !path.directory && (Disk.refusal? .finding t place).isNone
    | some .directory => (Disk.refusal? .finding t place).isNone
    | none => false
  | .error _ => false

/-- Whether several steps are seen to lead to a directory. -/
def isDirectory (t : FileTree) (start steps : List String) : Bool :=
  match t.walk start steps with
  | .ok place =>
    t.node? place = some .directory && (Disk.refusal? .finding t place).isNone
  | .error _ => false

/-- What the file at the end of a path holds. -/
def bytes (t : FileTree) (path : Path) : Except FileFault ByteArray := do
  let place ← t.locate path
  match t.node? place with
  | some (.file bytes) =>
    if path.directory then .error .notADirectory
    else
      match Disk.refusal? .reading t place with
      | some fault => .error fault
      | none => .ok bytes
  | some .directory => .error .isADirectory
  | none => .error .missing

/-- The text of a file. -/
def read (t : FileTree) (path : String) : Except FileFault String := do
  match String.fromUTF8? (← t.bytes (.ofString path)) with
  | some text => .ok text
  | none => .error .notText

/-- The place of the file that a path leads to, for writing to it; it need not be there. -/
def target (t : FileTree) (path : Path) : Except FileFault (List String) := do
  let place ← t.locate path
  if path.directory ∨ t.node? place = some .directory then .error .isADirectory
  else
    match Disk.refusal? .writing t place with
    | some fault => .error fault
    | none => .ok place

/-- Writes a text behind what the file at a place holds, which is open. -/
def extend (t : FileTree) (place : List String) (text : String) : Change :=
  let held := (t.file? (placeName place)).getD .empty
  match Disk.stop? t place text.toByteArray with
  | none => ⟨t.put place (.file (held ++ text.toByteArray)), none⟩
  | some (count, fault) =>
    ⟨t.put place (.file (held ++ text.toByteArray.extract 0 count)), some fault⟩

/-- Writes several texts behind what the file at a place holds, up to one at which it stops. -/
def extendAll (t : FileTree) (place : List String) : List String → Change
  | [] => ⟨t, none⟩
  | text :: texts =>
    let change := t.extend place text
    match change.fault with
    | some _ => change
    | none => change.tree.extendAll place texts

/-- Opens a file and writes texts to it, behind what it holds if that is kept. -/
def update (t : FileTree) (path : Path) (keep : Bool) (texts : List String) : Change :=
  match t.target path with
  | .error fault => ⟨t, some fault⟩
  | .ok place =>
    let held := if keep then (t.file? (placeName place)).getD .empty else .empty
    (t.put place (.file held)).extendAll place texts

/-- Makes a directory. -/
def makeDirectory (t : FileTree) (start steps : List String) : Except FileFault FileTree := do
  let place ← t.walk start steps
  match t.node? place with
  | some _ => .error .occupied
  | none =>
    match Disk.refusal? .making t place with
    | some fault => .error fault
    | none => .ok (t.put place .directory)

/-- Makes a directory unless there is one. -/
def ensureDirectory (t : FileTree) (start steps : List String) : Change :=
  match t.makeDirectory start steps with
  | .ok t => ⟨t, none⟩
  | .error fault => ⟨t, if t.isDirectory start steps then none else some fault⟩

/-- Makes a directory and those that it lies in.  The steps come in reverse. -/
def ensureDirectories (t : FileTree) (start : List String) : (stepsReversed : List String) → Change
  | [] => ⟨t, none⟩
  | name :: before =>
    match t.makeDirectory start (name :: before).reverse with
    | .ok t => ⟨t, none⟩
    | .error .missing =>
      let above := ensureDirectories t start before
      match above.fault with
      | none => above.tree.ensureDirectory start (name :: before).reverse
      | some _ => above
    | .error fault => ⟨t, if t.isDirectory start (name :: before).reverse then none else some fault⟩

/-- Writes a file anew, after making the directories that it lies in. -/
def write (t : FileTree) (path text : String) : Change :=
  let path := Path.ofString path
  let above := t.ensureDirectories (t.start path) path.parentSteps.reverse
  match above.fault with
  | some _ => above
  | none => above.tree.update path false [text]

/-- Writes texts at the end of a file, one after the other. -/
def append (t : FileTree) (path : String) (texts : List String) : Change :=
  t.update (.ofString path) true texts

/-- The tree in which a run takes place, with given files in its directory. -/
def ofFiles (files : List (String × String)) : FileTree :=
  files.foldl (fun t (path, text) => (t.write path text).tree)
    ⟨.ofEntries [("work", .directory)], ["work"]⟩

/-- The texts in the directory of a run, with their names there and in the order of these. -/
def files (t : FileTree) : List (String × String) :=
  (t.nodes.entries.filterMap fun (name, node) =>
    match node with
    | .file bytes => do
      let name ← Text.afterStart? (placeName t.home ++ "/") name
      some (name, ← String.fromUTF8? bytes)
    | .directory => none).mergeSort fun a b => a.1 ≤ b.1

end FileTree

end ImageTags
