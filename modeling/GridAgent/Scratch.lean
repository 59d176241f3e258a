import GridAgent.Error
import GridAgent.Table

/-!
# The scratch area

Each executing task has a directory of its own under the scratch root, into which its payload and
the data it needs are written. The directory is removed when the task is done. Where a plain file
stands in place of the root no directory can be made.
-/

namespace GridAgent

/-- Contents of the scratch area of an agent. -/
structure Scratch where
  /-- A plain file stands in place of the root. -/
  blocked : Bool := false
  /-- The directory of each task, with the files in it. -/
  dirs : Table TaskId (Table DataId (List UInt8)) := .empty

namespace Scratch

instance : Inhabited Scratch := ⟨{}⟩

/-- Appends a name to a path. -/
def joinPath (root name : String) : String :=
  if root.isEmpty || root.endsWith "/" then root ++ name else root ++ "/" ++ name

/-- The names along a path. -/
def pathNames (path : String) : List String :=
  (path.splitOn "/").filter fun name => name ≠ "" ∧ name ≠ "."

/-- A path is that of a plain file or leads through it, so that there can be no directory. -/
def leadsThrough (path file : String) : Bool := (pathNames file).isPrefixOf (pathNames path)

/-- The directory of a task. -/
def dirPath (root : String) (task : TaskId) : String := joinPath root task.toString

/-- The file of a data object in the directory of a task. -/
def filePath (root : String) (task : TaskId) (data : DataId) : String :=
  joinPath (dirPath root task) data.toString

/-- Where a directory is expected there is a file. -/
def notADirectory : StorageError := .scratch "Not a directory (os error 20)"

/-- Makes the directory of a task, unless it is there. -/
def make (s : Scratch) (task : TaskId) : Except StorageError Unit × Scratch :=
  if s.blocked then (.error notADirectory, s)
  else if s.dirs.contains task then (.ok (), s)
  else (.ok (), { s with dirs := s.dirs.set task .empty })

/-- There is no directory to write to. -/
def noSuchFile : StorageError := .scratch "No such file or directory (os error 2)"

/-- Writes a file into the directory of a task. -/
def save (s : Scratch) (task : TaskId) (data : DataId) (bytes : List UInt8) :
    Except StorageError Unit × Scratch :=
  if s.blocked then (.error notADirectory, s)
  else
    match s.dirs.get? task with
    | none => (.error noSuchFile, s)
    | some files => (.ok (), { s with dirs := s.dirs.set task (files.set data bytes) })

/-- Removes the directory of a task; a missing one is fine. -/
def clear (s : Scratch) (task : TaskId) : Scratch := { s with dirs := s.dirs.erase task }

/-- Removes some files from the directory of a task, and the directory itself with the last ones;
answers whether anything is left. -/
def clearSome (s : Scratch) (task : TaskId) (most : Nat) : Bool × Scratch :=
  match s.dirs.get? task with
  | none => (false, s)
  | some files =>
    if files.entries.length ≤ most then (false, s.clear task)
    else (true, { s with dirs := s.dirs.set task (files.drop most) })

/-- Puts a plain file in place of the root. -/
def block (_ : Scratch) : Scratch := { blocked := true, dirs := .empty }

/-- The names under the root, in order. -/
def names (s : Scratch) : List String := (s.dirs.keys.map Id.toString).mergeSort (· ≤ ·)

end Scratch

end GridAgent
