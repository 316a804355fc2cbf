import TargetNet.FileSystem.Basic

/-!
# Differences between file systems

What has to be done to one file system to make another one of it: directories first, the upper ones
before those in them, then what goes, then files.
-/

namespace TargetNet

/-- One change of a file system. -/
inductive Change where
  | makeDirectory (location : Location)
  | remove (location : Location)
  | putFile (location : Location) (content : ByteArray) (mode : Nat)

namespace FileSystem

/-- The directories that are new, the upper ones first. -/
def newDirectories (before after : FileSystem) : List Change :=
  let new := after.entries.filterMap fun (location, entry) =>
    if entry = .directory ∧ before.get? location ≠ some .directory then some location else none
  (new.mergeSort fun a b => a.length ≤ b.length).map .makeDirectory

/-- The files and links that are gone. -/
def removedEntries (before after : FileSystem) : List Change :=
  before.entries.filterMap fun (location, _) =>
    if after.get? location = none then some (.remove location) else none

/-- The files that are new or have changed. -/
def putFiles (before after : FileSystem) : List Change :=
  after.entries.filterMap fun (location, entry) =>
    match entry with
    | .file content mode =>
      if before.get? location ≠ some entry then some (.putFile location content mode) else none
    | _ => none

/-- What makes the second file system of the first. -/
def changesTo (before after : FileSystem) : List Change :=
  before.newDirectories after ++ before.removedEntries after ++ before.putFiles after

end FileSystem

end TargetNet
