import TargetNet.Network.Config
import TargetNet.TargetFile

/-!
# Sources of network states

Where a state comes from: a state file written by an earlier run, or a config file. A state file wins
when both are given. `saveState` writes a state file.
-/

namespace TargetNet.Network

/-- Reads the text of a file. -/
def readFile [Circumstances] (operation : FileOperation) (path : Path) : Job Remark String :=
  .look fun fs => (fs.readText path).mapError (.file operation path)

/-- The state in a state file. -/
def loadState [Circumstances] (path : Path) : Job Remark State := do
  Job.say .debug ("Loading network state from " ++ path.display)
  let text ← readFile .readState path
  Job.ofExcept ((State.parse text).mapError .document)

/-- The state that a config text describes. -/
def parseConfigText (text : String) : Job Remark State := do
  let entries ← Job.ofExcept ((parseEntries text).mapError .document)
  Job.say .debug ("Network config version " ++ Decimal.text supportedVersion.toNat ++ " with " ++
    Decimal.text entries.length ++ " entries")
  Job.ofExcept ((State.ofEntries entries).mapError .document)

/-- The state that a config file describes. -/
def loadConfig [Circumstances] (path : Path) : Job Remark State := do
  Job.say .debug ("Parsing network config from " ++ path.display)
  let text ← readFile .readConfig path
  parseConfigText text

/-- The state from the sources that are given. -/
def resolve [Circumstances] (stateFile configFile : Option Path) : Job Remark State :=
  match stateFile, configFile with
  | some stateFile, some configFile => do
    Job.say .info ("Both network state " ++ stateFile.display ++ " and network config " ++
      configFile.display ++ " given; using network state")
    loadState stateFile
  | some stateFile, none => loadState stateFile
  | none, some configFile => loadConfig configFile
  | none, none => Job.fail (.missing .source)

/-- The text of a state file. -/
def State.text (state : State) : Except Error String :=
  (Yaml.writeDocument state.toValue).mapError .unwritable

/-- Writes a state file. -/
def saveState [Circumstances] (state : State) (path : Path) : Job Remark Unit := do
  let text ← Job.ofExcept state.text
  writeFile path text.toUTF8 configMode

end TargetNet.Network
