import TargetNet.FileSystem.Difference
import TargetNet.Places

/-!
# The program

Takes a picture of the places that a command may touch, runs the command on the picture, and carries
out on the host what has changed in it. Nothing is decided here.
-/

namespace TargetNet.Host

/-- The permissions of a file that was there before. No file that is written has them, so every write
shows as a change. -/
def unknownMode : Nat := 0o10000

/-- The canonical location of a path, if anything is there. -/
def locationOf (path : String) : IO (Option Location) := do
  try
    let real := (← IO.FS.realPath path).toString
    return some (Path.names (Path.ofString real).components)
  catch _ => return none

/-- The text of a path for the system. -/
def systemText (path : Path) : String :=
  if path.bytes = [] then "." else path.display

/-- The path of a location. -/
def absolute (location : Location) : String :=
  "/" ++ (Path.ofNames location).display

/-- A picture with all directories on the way to a location. -/
def withDirectories (picture : FileSystem) (location : Location) : FileSystem :=
  (List.range location.length).foldl
    (fun picture n => picture.set (location.take (n + 1)) .directory) picture

/-- A picture with what is at a path. -/
def look (picture : FileSystem) (path : Path) : IO FileSystem := do
  match ← locationOf (systemText path) with
  | none => return picture
  | some [] => return picture
  | some location =>
    let isDirectory := (← locationOf (systemText path ++ "/.")).isSome
    let picture := withDirectories picture location.dropLast
    let picture ←
      if isDirectory then pure (picture.set location .directory)
      else
        let content ← IO.FS.readBinFile (absolute location)
        pure (picture.set location (.file content unknownMode))
    match path.parent?, path.components.getLast? with
    | some parent, some (.name name) =>
      match ← locationOf (systemText parent) with
      | some directory =>
        let place := directory ++ [name]
        if place = location then return picture
        else
          let target := Path.ofString (absolute location)
          return (withDirectories picture directory).set place (.link target)
      | none => return picture
    | _, _ => return picture

/-- A picture of everything on the way to some paths. -/
def picture (paths : List Path) : IO FileSystem := do
  let here := (← locationOf ".").getD []
  let blank := withDirectories ⟨[], here⟩ here
  (paths.flatMap Path.stages).foldlM look blank

/-- The rights that the lowest bits of a number stand for. -/
def rights (bits : Nat) : IO.AccessRight :=
  ⟨bits / 4 % 2 = 1, bits / 2 % 2 = 1, bits % 2 = 1⟩

/-- The name of a file that is being written. -/
def stagingName : Name :=
  Text.Utf8.encode ("." ++ programName ++ "-staging.tmp")

/-- Carries out a change. -/
def carryOut : Change → IO Unit
  | .makeDirectory location => IO.FS.createDir (absolute location)
  | .remove location => IO.FS.removeFile (absolute location)
  | .putFile location content mode => do
    let staging := absolute (location.dropLast ++ [stagingName])
    IO.FS.writeBinFile staging content
    IO.setAccessRights staging ⟨rights (mode / 64), rights (mode / 8), rights mode⟩
    IO.FS.rename staging (absolute location)

/-- The word for a level, if it is worth printing. -/
def levelWord? : Level → Option String
  | .debug => none
  | .info => some "INFO"
  | .warn => some "WARN"
  | .error => some "ERROR"

/-- Prints the notes of a run and how it ended. -/
def tell (notes : List Note) (ending : Ending) : IO UInt32 := do
  for (level, text) in Note.log notes do
    if let some word := levelWord? level then IO.eprintln (word ++ " " ++ text)
  IO.print ending.output
  match ending with
  | .misuse => IO.eprint helpText
  | _ =>
    if let some text := ending.complaint? then IO.eprintln ("Error: " ++ text)
  return UInt32.ofNat ending.status

/-- The query program of the host. From here no other program is run, so there is none, and the probe
is the one for a host without it. -/
def queryProgram : Option Package.QueryProgram :=
  none

/-- Runs a command on the host. -/
def execute (command : Command) : IO UInt32 := do
  let before ← picture command.places
  let done := command.run (Package.defaultProbe queryProgram) before
  for change in before.changesTo done.files do
    carryOut change
  match done.result with
  | .ok ending => tell done.notes ending
  | .error error => tell done.notes (.failure none error)

/-- The environment variables that are set, of some names. -/
def environment : List String → IO (List (String × String))
  | [] => return []
  | name :: rest => do
    let others ← environment rest
    match ← IO.getEnv name with
    | some value => return (name, value) :: others
    | none => return others

end TargetNet.Host

open TargetNet in
/-- Runs the program. -/
def main (arguments : List String) : IO UInt32 := do
  let found ← Host.environment [targetVariable, stateVariable, configVariable]
  let environment := fun name => (found.find? (·.1 == name)).map (·.2)
  match Command.parse environment arguments with
  | .ok command => Host.execute command
  | .error reason => Host.tell [] reason.ending
