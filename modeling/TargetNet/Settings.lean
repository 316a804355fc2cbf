import TargetNet.Apply

/-!
# Settings

The settings of a run as they come from options and the environment. An empty path counts as none, and a
truth value may be spelled in many ways.
-/

namespace TargetNet

/-- The spellings of false. -/
def falseWords : List String :=
  ["", "0", "false", "False", "none", "None"]

/-- The truth value that a text spells: everything but the spellings of false is true. -/
def truthOf (text : String) : Bool :=
  !falseWords.contains (Text.trimString text)

/-- The settings of a run. -/
structure Settings where
  target : Option Path := none
  stateFile : Option Path := none
  configFile : Option Path := none
  /-- The spelling of the way to bring up aliases. -/
  postupAlias : Option String := none
  deriving DecidableEq, Repr

/-- A path that is not empty. -/
def nonEmpty (path : Option Path) : Option Path :=
  path.filter (·.bytes ≠ [])

/-- The request that settings make. -/
def Settings.toRequest (settings : Settings) : Except Error Request :=
  match nonEmpty settings.target with
  | none => .error (.missing .target)
  | some target =>
    let stateFile := nonEmpty settings.stateFile
    let configFile := nonEmpty settings.configFile
    if stateFile.isNone && configFile.isNone then .error (.missing .source)
    else .ok { target, stateFile, configFile, postupAlias := settings.postupAlias.map truthOf }

end TargetNet
