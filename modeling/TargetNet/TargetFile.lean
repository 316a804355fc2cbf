import TargetNet.Job

/-!
# Files of a target

Every file that is touched is named by a path below the target's root. `targetPath` turns such a path
into one that can be opened, and refuses what would lead out of the target; `writeFile` puts a file in
place, complete or not at all.
-/

namespace TargetNet

/-- Whether both paths lead somewhere and the second does not lead below the first. -/
def FileSystem.escapes (fs : FileSystem) (root path : Path) : Bool :=
  match fs.canonical root, fs.canonical path with
  | .ok base, .ok location => !base.isPrefixOf location
  | _, _ => false

/-- The path of a file of the target. -/
def targetPathIn (fs : FileSystem) (root path : Path) : Except PathError Path := do
  let joined := root.join (← path.relative)
  if fs.escapes root joined then .error (.escapes joined root) else .ok joined

/-- The path of a file of the target. -/
def targetPath {ν : Type} (root path : Path) : Job ν Path :=
  .look fun fs => (targetPathIn fs root path).mapError .path

/-- A number to the base eight. -/
def octal (n : Nat) : String :=
  String.ofList (Nat.toDigits 8 n)

/-- What is said of a file that was written. -/
def writtenRemark (path : Path) (content : ByteArray) (mode : Nat) : String :=
  "Wrote " ++ path.display ++ " (" ++ Decimal.text content.size ++ " bytes, mode " ++ octal mode ++ ")"

/-- Puts a file in place. -/
def writeFile [Circumstances] (path : Path) (content : ByteArray) (mode : Nat) :
    Job Remark Unit := do
  match path.parent? with
  | none => Job.fail (.path (.noParent path))
  | some parent =>
    Job.change fun fs =>
      let (files, result) := fs.write { path, parent, content, mode }
      (files, result.mapError (.write path))
    Job.say .debug (writtenRemark path content mode)

end TargetNet
