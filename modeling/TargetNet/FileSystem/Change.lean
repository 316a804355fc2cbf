import TargetNet.FileSystem.Circumstances
import TargetNet.FileSystem.Lookup

/-!
# Reading and changing files

Reading goes through links, and the system may refuse it. Making a directory, removing an entry and
putting a file in place act on the entry itself: a link there is not followed. `makeDirectories` may
stop half way; what it made until then stays.
-/

namespace TargetNet.FileSystem

/-- The bytes of the file that a path leads to. -/
def read [Circumstances] (fs : FileSystem) (path : Path) : Except SystemError ByteArray := do
  match ← fs.find path with
  | .file content mode =>
    match Circumstances.reading path mode with
    | some fault => .error fault
    | none => .ok content
  | _ => .error .isDirectory

/-- The text of the file that a path leads to. -/
def readText [Circumstances] (fs : FileSystem) (path : Path) : Except SystemError String := do
  match Text.Utf8.decode (← fs.read path) with
  | .ok text => .ok text
  | .error _ => .error .notText

/-- Makes one directory. -/
def makeDirectory (fs : FileSystem) (path : Path) : Except SystemError FileSystem := do
  match ← fs.locate path with
  | (_, none, _) => .error .alreadyExists
  | (directory, some name, _) =>
    if name.length > Path.maxName then .error .nameTooLong
    else if (fs.get? (directory ++ [name])).isSome then .error .alreadyExists
    else .ok (fs.set (directory ++ [name]) .directory)

/-- Makes the first of these directories. If a directory above it is missing, it makes the others
before. -/
def makeAll (fs : FileSystem) : (upwards : List Path) → FileSystem × Except SystemError Unit
  | [] => (fs, .ok ())
  | path :: above =>
    match fs.makeDirectory path with
    | .ok made => (made, .ok ())
    | .error .noEntry =>
      match fs.makeAll above with
      | (fs, .error fault) => (fs, .error fault)
      | (fs, .ok ()) =>
        match fs.makeDirectory path with
        | .ok made => (made, .ok ())
        | .error fault =>
          if fault = .alreadyExists ∧ fs.isDirectory path then (fs, .ok ()) else (fs, .error fault)
    | .error fault =>
      if fault = .alreadyExists ∧ fs.isDirectory path then (fs, .ok ()) else (fs, .error fault)

/-- Makes a directory, and every directory on the way to it that is missing. -/
def makeDirectories (fs : FileSystem) (path : Path) : FileSystem × Except SystemError Unit :=
  fs.makeAll path.upwards

/-- Removes the entry that a path names, which must not be a directory. -/
def remove (fs : FileSystem) (path : Path) : Except SystemError FileSystem := do
  match ← fs.locate path with
  | (_, none, _) => .error .isDirectory
  | (directory, some name, slashAfter) =>
    if name.length > Path.maxName then .error .nameTooLong
    else
      match fs.get? (directory ++ [name]) with
      | none => .error .noEntry
      | some .directory => .error .isDirectory
      | some _ =>
        if slashAfter then .error .notDirectory else .ok (fs.erase (directory ++ [name]))

/-- Moves the file at the location `source` to the place that a path names. What is there is
replaced, a link as well, but not a directory. -/
def replace (fs : FileSystem) (source : Location) (path : Path) : Except SystemError FileSystem := do
  match fs.locate path with
  | .error .nulInName => .error .invalidArgument
  | .error fault => .error fault
  | .ok (_, none, _) => .error .busy
  | .ok (directory, some name, slashAfter) =>
    if name.length > Path.maxName then .error .nameTooLong
    else if slashAfter then .error .notDirectory
    else if fs.isDirectoryAt (directory ++ [name]) then .error .isDirectory
    else
      match fs.get? source with
      | none => .error .noEntry
      | some entry => .ok ((fs.erase source).set (directory ++ [name]) entry)

end TargetNet.FileSystem
