import TargetNet.FileSystem.Change

/-!
# Atomic writes

A file is written in stages: its directory is made, the content is put into a staging file next to the
destination, and the staging file takes the destination's place with one step. `Draft.follow` goes
through stages one by one, any of which may be disturbed, so that the file system can be looked at after
every prefix of them. When a stage fails, the staging file is taken away again, and this never fails.
-/

namespace TargetNet

/-- The permissions of a configuration file. -/
def configMode : Nat := 0o644

/-- The permissions of a script. -/
def scriptMode : Nat := 0o755

/-- The bits of a mode that a file keeps. -/
def keptMode (mode : Nat) : Nat :=
  mode % 0o10000

/-- A file to write. -/
structure FileWrite where
  path : Path
  /-- The directory that it goes into. -/
  parent : Path
  content : ByteArray
  mode : Nat

/-- A write that is under way. -/
structure Draft where
  files : FileSystem
  /-- Where the staging file is, when there is one. -/
  staged : Option Location

namespace FileSystem

/-- Where the staging file for a destination is in a directory. -/
def stagingPlace [Circumstances] (fs : FileSystem) (directory : Location) (destination : Path) :
    Location :=
  directory ++ [Circumstances.staging.name fs directory destination]

/-- The directory that a path leads to; the empty path leads to the current one. -/
def directory (fs : FileSystem) (path : Path) : Except SystemError Location :=
  if path.bytes = [] then .ok fs.current
  else do
    let location ← fs.resolve path
    if fs.isDirectoryAt location then .ok location else .error .notDirectory

end FileSystem

namespace Draft

/-- Puts a file where the staging file is. -/
def put (draft : Draft) (content : ByteArray) (mode : Nat) : Draft × Except SystemError Unit :=
  match draft.staged with
  | none => (draft, .error .noEntry)
  | some location =>
    ({ draft with files := draft.files.set location (.file content mode) }, .ok ())

/-- The content and permissions of the staging file. -/
def stagedFile (draft : Draft) : ByteArray × Nat :=
  match draft.staged.bind draft.files.get? with
  | some (.file content mode) => (content, mode)
  | _ => (.empty, 0)

/-- The permissions that a staging file is made with. -/
def privateMode : Nat := 0o600

/-- Goes through one stage. -/
def step [Circumstances] (write : FileWrite) (draft : Draft) :
    WriteStage → Draft × Except SystemError Unit
  | .parents =>
    let (files, result) := draft.files.makeDirectories write.parent
    ({ draft with files }, result)
  | .create =>
    match draft.files.directory write.parent with
    | .error fault => (draft, .error fault)
    | .ok directory =>
      let location := draft.files.stagingPlace directory write.path
      (⟨draft.files.set location (.file .empty privateMode), some location⟩, .ok ())
  | .fill => draft.put write.content draft.stagedFile.2
  | .flush => (draft, .ok ())
  | .permit => draft.put draft.stagedFile.1 (keptMode write.mode)
  | .publish =>
    match draft.staged with
    | none => (draft, .error .noEntry)
    | some location =>
      match draft.files.replace location write.path with
      | .ok files => (⟨files, none⟩, .ok ())
      | .error fault => (draft, .error fault)

/-- Goes through stages until one fails. -/
def follow [Circumstances] (write : FileWrite) (draft : Draft) :
    List WriteStage → Draft × Except SystemError Unit
  | [] => (draft, .ok ())
  | stage :: rest =>
    match Circumstances.writing write.path stage with
    | some fault => (draft, .error fault)
    | none =>
      match draft.step write stage with
      | (draft, .ok ()) => draft.follow write rest
      | (draft, .error fault) => (draft, .error fault)

/-- Takes the staging file away. -/
def discard (draft : Draft) : FileSystem :=
  match draft.staged with
  | none => draft.files
  | some location => draft.files.erase location

end Draft

/-- Writes a file, or leaves what was at its destination. -/
def FileSystem.write [Circumstances] (fs : FileSystem) (write : FileWrite) :
    FileSystem × Except SystemError Unit :=
  match Draft.follow write ⟨fs, none⟩ WriteStage.all with
  | (draft, .ok ()) => (draft.files, .ok ())
  | (draft, .error fault) => (draft.discard, .error fault)

end TargetNet
