import TargetNet.FileSystem.Basic

/-!
# Looking up paths

`walk` follows a path step by step from a directory, through every link on its way, and ends at a
location that no link leads away from. `resolve` walks a whole path. `locate` stops before the last
name and does not follow it: it is the place of a directory entry, which may be a link or missing. An
operation through a link uses `resolve`, one on the entry itself uses `locate`. `canonical` finds the
location of what is there without using the path as a whole, so there it may be longer.
-/

namespace TargetNet

namespace Path

/-- The length that a name must not exceed. -/
def maxName : Nat := 255

/-- The length that a path must stay below. -/
def maxPath : Nat := 4096

/-- The pieces to walk: empty ones are skipped, and a slash at the end asks for a directory, as a dot
there would. -/
def steps (path : Path) : List Name :=
  let named := (pieces path.bytes).filter (· ≠ [])
  if path.endsInSlash then named ++ [[dot]] else named

/-- The faults that a path of any length has by itself. -/
def checkText (path : Path) : Except SystemError Unit :=
  if 0 ∈ path.bytes then .error .nulInName
  else if path.bytes = [] then .error .noEntry
  else .ok ()

/-- The faults that a path has by itself. -/
def check (path : Path) : Except SystemError Unit := do
  path.checkText
  if maxPath ≤ path.bytes.length then .error .nameTooLong else .ok ()

end Path

namespace FileSystem

/-- How many links one look-up follows. -/
def maxLinks : Nat := 40

/-- Where a path starts to be read. -/
def startOf (path : Path) (here : Location) : Location :=
  if path.isAbsolute then [] else here

/-- Walks on from the location `here` until there is a link to follow, and lets `follow` go on from
there. -/
def walkTo (fs : FileSystem) (follow : Location → List Name → Except SystemError Location)
    (here : Location) : (steps : List Name) → Except SystemError Location
  | [] => .ok here
  | step :: rest =>
    if fs.isDirectoryAt here then
      if step = [Path.dot] then fs.walkTo follow here rest
      else if step = [Path.dot, Path.dot] then fs.walkTo follow here.dropLast rest
      else if step.length > Path.maxName then .error .nameTooLong
      else
        match fs.get? (here ++ [step]) with
        | none => .error .noEntry
        | some (.link goal) => follow (startOf goal here) (goal.steps ++ rest)
        | some _ => fs.walkTo follow (here ++ [step]) rest
    else .error .notDirectory

/-- Walks on from the location `here`, with `links` more links to follow. -/
def walk (fs : FileSystem) : (links : Nat) → (here : Location) → (steps : List Name) →
    Except SystemError Location
  | 0 => fs.walkTo fun _ _ => .error .tooManyLinks
  | links + 1 => fs.walkTo (fs.walk links)

/-- A walk without steps stays. -/
theorem walk_nil (fs : FileSystem) (links : Nat) (here : Location) :
    fs.walk links here [] = .ok here := by
  cases links <;> rfl

/-- A walk goes one step. -/
theorem walk_cons (fs : FileSystem) (links : Nat) (here : Location) (step : Name)
    (rest : List Name) :
    fs.walk links here (step :: rest) =
      if fs.isDirectoryAt here then
        if step = [Path.dot] then fs.walk links here rest
        else if step = [Path.dot, Path.dot] then fs.walk links here.dropLast rest
        else if step.length > Path.maxName then .error .nameTooLong
        else
          match fs.get? (here ++ [step]) with
          | none => .error .noEntry
          | some (.link goal) =>
            match links with
            | 0 => .error .tooManyLinks
            | links + 1 => fs.walk links (startOf goal here) (goal.steps ++ rest)
          | some _ => fs.walk links (here ++ [step]) rest
      else .error .notDirectory := by
  cases links <;> rfl

/-- The location of what a path leads to, all links followed. -/
def resolve (fs : FileSystem) (path : Path) : Except SystemError Location := do
  path.check
  fs.walk maxLinks (startOf path fs.current) path.steps

/-- The entries whose path from the root is short enough to be used. -/
def nameable (fs : FileSystem) : FileSystem :=
  { fs with
    entries := fs.entries.filter fun e => (Path.slash :: Path.joinNames e.1).length < Path.maxPath }

/-- The canonical location of what a path leads to, found from the root by one name after the
other. -/
def canonical (fs : FileSystem) (path : Path) : Except SystemError Location := do
  path.checkText
  fs.nameable.walk maxLinks (startOf path fs.current) path.steps

/-- What a path leads to. -/
def find (fs : FileSystem) (path : Path) : Except SystemError Entry := do
  match fs.get? (← fs.resolve path) with
  | some entry => .ok entry
  | none => .error .noEntry

/-- Whether a path leads to a directory. -/
def isDirectory (fs : FileSystem) (path : Path) : Bool :=
  match fs.find path with
  | .ok .directory => true
  | _ => false

/-- Whether a path leads anywhere. -/
def exists? (fs : FileSystem) (path : Path) : Except SystemError Bool :=
  match fs.resolve path with
  | .ok _ => .ok true
  | .error .noEntry => .ok false
  | .error fault => .error fault

/-- The place that a path names in some directory, without following a link there: the directory, the
last name, and whether a slash comes after it. No name is given for the root and for dots. -/
def locate (fs : FileSystem) (path : Path) : Except SystemError (Location × Option Name × Bool) := do
  path.check
  let named := (Path.pieces path.bytes).filter (· ≠ [])
  let directory ← fs.walk maxLinks (startOf path fs.current) named.dropLast
  if fs.isDirectoryAt directory then
    match named.getLast? with
    | none => .ok (directory, none, path.endsInSlash)
    | some last =>
      if last = [Path.dot] ∨ last = [Path.dot, Path.dot] then .ok (directory, none, path.endsInSlash)
      else .ok (directory, some last, path.endsInSlash)
  else .error .notDirectory

end FileSystem

end TargetNet
