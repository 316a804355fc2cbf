import TargetNet.FileSystem.Fault
import TargetNet.Package.StatusDatabase
import TargetNet.Path
import TargetNet.Version

/-!
# Errors of version probes

Why the version of a package in a target is not known.
-/

namespace TargetNet.Package

/-- A reason for which a version is not known. -/
inductive ProbeError where
  | unreadable (path : Path) (fault : SystemError)
  | malformed (error : DatabaseError)
  | notInstalled (package : String) (target : Path)
  | noVersion (package : String)
  /-- The version is there, but has no numbers. -/
  | version (error : Version.ParseError)
  /-- The query program could not be started. -/
  | notStarted (fault : SystemError)
  /-- The query program took longer than it may. -/
  | timedOut (seconds : Nat)
  /-- The query program knows no such package. -/
  | notFound (package : String) (database : Path)
  /-- The query program gave no version. -/
  | noAnswer (package : String)
  /-- A probe from outside gave this reason. -/
  | other (text : String)
  deriving DecidableEq, Repr

/-- The wording of a reason. -/
def ProbeError.message : ProbeError → String
  | .unreadable path fault => "Cannot read " ++ path.display ++ ": " ++ fault.message
  | .malformed error => "Malformed dpkg status database: " ++ error.message
  | .notInstalled package target =>
    "Package '" ++ package ++ "' is not installed in " ++ target.display
  | .noVersion package => "Package '" ++ package ++ "' has no Version field"
  | .version error => error.message
  | .notStarted fault => "Failed to run dpkg-query: " ++ fault.message ++ ". Is dpkg installed?"
  | .timedOut seconds => "dpkg-query timed out after " ++ Decimal.text seconds ++ " seconds"
  | .notFound package database =>
    "Package '" ++ package ++ "' not found in dpkg database " ++ database.display
  | .noAnswer package => "dpkg-query returned no version for '" ++ package ++ "'"
  | .other text => text

end TargetNet.Package
