import TargetNet.Job

/-!
# Version probes

Two ways to find out which version of a package is installed in a target: reading the status database
of the target, and asking a query program for it. `Run` is all that the program lets be seen, so the
probe is a function of it.
-/

namespace TargetNet.Package

/-- Finds the version of a package in a target. -/
abbrev Probe := (target : Path) → (package : String) → Job Remark Version

/-- Where the package database is, below the target. -/
def databasePath : Path := .ofString "var/lib/dpkg"

/-- The package database of a target. -/
def databaseOf (target : Path) : Path :=
  target.join databasePath

/-- The status file of a target. -/
def statusFileOf (target : Path) : Path :=
  (databaseOf target).join (.ofString "status")

/-- The version in a text of the database. -/
def versionOf (raw : String) : Except ProbeError Version :=
  match Version.parse raw with
  | .ok version => .ok version
  | .error error => .error (.version error)

/-- The record of an installed package, the first one if there are several. -/
def installed? (package : String) (records : List Record) : Option Record :=
  records.find? fun record => record.package == package && record.isInstalled

/-- Finds the records in the text of a database. -/
abbrev RecordReader := (text : String) → Except DatabaseError (List Record)

/-- The version of a package by the text of the status file. -/
def versionInStatus (records : RecordReader) (target : Path) (package text : String) :
    Except ProbeError Version :=
  match records text with
  | .error error => .error (.malformed error)
  | .ok records =>
    match installed? package records with
    | none => .error (.notInstalled package target)
    | some record =>
      match record.version with
      | none => .error (.noVersion package)
      | some raw => versionOf raw

/-- Looks into the status file of a target. -/
def readStatus [Circumstances] (records : RecordReader) (fs : FileSystem) (target : Path)
    (package : String) : Except ProbeError Version :=
  match fs.readText (statusFileOf target) with
  | .error fault => .error (.unreadable (statusFileOf target) fault)
  | .ok text => versionInStatus records target package text

/-- The probe that reads the status file, with this reader of its records. -/
def recordProbe [Circumstances] (records : RecordReader) : Probe := fun target package => do
  Job.say .debug ("Reading dpkg status database: " ++ (statusFileOf target).display)
  Job.look fun fs => (readStatus records fs target package).mapError .probe

/-- The probe that reads the status file. -/
def statusProbe [Circumstances] : Probe :=
  recordProbe parseDatabase

/-! ## The query program -/

/-- What running the query program came to. -/
inductive Run where
  | notStarted (fault : SystemError)
  /-- It could not be waited for. -/
  | unwaited (fault : SystemError)
  /-- It ran longer than it may. -/
  | timedOut
  /-- It ended, but what it wrote could not be read. -/
  | unread (fault : SystemError)
  /-- It ended, having written this to its two outputs. -/
  | finished (exit : Nat) (output complaints : ByteArray)

/-- The arguments of the query program. -/
def queryArguments (target : Path) (package : String) : List String :=
  ["--admindir=" ++ (databaseOf target).display, "--show", "--showformat", "$\x7bVersion\x7d",
    package]

/-- The query program: what running it with some arguments comes to. -/
abbrev QueryProgram := List String → Run

/-- Reads what the program wrote. -/
def outputText (bytes : ByteArray) : Except Error String :=
  match Text.Utf8.decode bytes with
  | .ok text => .ok text
  | .error _ => .error (.system .notText)

/-- Whether a list of arguments can be handed to a program. -/
def canBeArguments (arguments : List String) : Bool :=
  arguments.all fun argument => !argument.toList.contains '\u0000'

/-- Runs the query program with some arguments. -/
def QueryProgram.start (program : QueryProgram) (arguments : List String) : Run :=
  if canBeArguments arguments then program arguments else .notStarted .nulInArgument

/-- The probe that asks the query program, which may take so many milliseconds. -/
def queryProbe (program : QueryProgram) (timeout : Nat) : Probe := fun target package => do
  let database := databaseOf target
  Job.say .debug ("Querying " ++ package ++ " version with admindir " ++ database.display)
  match program.start (queryArguments target package) with
  | .notStarted fault => Job.fail (.probe (.notStarted fault))
  | .unwaited fault => Job.fail (.system fault)
  | .timedOut => Job.fail (.probe (.timedOut (timeout / 1000)))
  | .unread fault => Job.fail (.system fault)
  | .finished exit output complaints =>
    let output ← Job.ofExcept (outputText output)
    let complaints ← Job.ofExcept (outputText complaints)
    if exit ≠ 0 then
      if !Text.allBlank complaints then
        Job.say .warn ("dpkg-query: " ++ Text.trimString complaints)
      Job.fail (.probe (.notFound package database))
    else if Text.allBlank output then Job.fail (.probe (.noAnswer package))
    else Job.ofExcept ((versionOf (Text.trimString output)).mapError .probe)

/-- How long the query program may take, in milliseconds. -/
def defaultTimeout : Nat := 30000

/-- The probe to use on a host that has the query program or has it not. -/
def defaultProbe [Circumstances] (program : Option QueryProgram) : Probe :=
  match program with
  | some program => queryProbe program defaultTimeout
  | none => statusProbe

end TargetNet.Package
