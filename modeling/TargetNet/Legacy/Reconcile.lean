import TargetNet.TargetFile

/-!
# Reconciling artifacts

Carrying out what the inspection of an artifact calls for. Only a file with the shipped content is
removed; an annotation may take its place. All other findings are reported and change nothing. A run
ends with an error only if the path is refused or the file cannot be removed.
-/

namespace TargetNet.Legacy

/-- The outcome and its explanation when nothing is to be done. -/
def Artifact.left (artifact : Artifact) : Inspection → Option (Outcome × String)
  | .absent => some (.absent, "legacy config file not found")
  | .uninspectable fault =>
    some (.unreadable,
      artifact.consequence ++ " File could not be inspected: " ++ fault.message)
  | .unreadable fault =>
    some (.unreadable,
      artifact.consequence ++ " File exists, but could not be read: " ++ fault.message)
  | .changed =>
    some (.preserved,
      artifact.consequence ++ " File exists with user configured content, leaving it in place.")
  | .asShipped => none

variable [Circumstances]

/-- The files without the entry at a path. -/
def remains (fs : FileSystem) (path : Path) : Except SystemError FileSystem :=
  match Circumstances.removing path with
  | some fault => .error fault
  | none => fs.remove path

/-- Removes the entry at a path. -/
def removeFile (path : Path) : Job Note Unit :=
  .change fun fs =>
    match remains fs path with
    | .ok files => (files, .ok ())
    | .error fault => (fs, .error (.file .remove path fault))

/-- Leaves a text at a path. That it cannot be written is reported and does no harm. -/
def annotate (path : Path) (text : String) : Job Note Unit := do
  match ← (writeFile path text.toUTF8 configMode).noting.attempt with
  | .ok () => return ()
  | .error error => Job.report (.failure path ("Failed to write annotation: " ++ error.message))

/-- Reconciles an artifact in a target. -/
def reconcile (target : Path) (artifact : Artifact) : Job Note Outcome := do
  let path ← targetPath target artifact.path
  let inspection ← Job.look fun fs => .ok (artifact.inspect fs path)
  match artifact.left inspection with
  | some (outcome, detail) =>
    Job.report (.reconciled path outcome detail)
    return outcome
  | none =>
    removeFile path
    match artifact.policy with
    | .delete => pure ()
    | .annotate text => annotate path text
    let outcome := artifact.policy.outcome
    Job.report (.reconciled path outcome "removed file with known contents")
    return outcome

end TargetNet.Legacy
