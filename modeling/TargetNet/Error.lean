import TargetNet.Network.DocumentError
import TargetNet.Package.ProbeError
import TargetNet.Yaml.Block

/-!
# Errors

Everything that can end a run. An error is its cause; its kind, which says how a caller treats it, and
its wording follow from that.
-/

namespace TargetNet

/-- An input that the caller did not give. -/
inductive MissingInput where
  /-- No target is set. -/
  | target
  /-- The target of a request is empty. -/
  | requestTarget
  /-- There is neither a config nor a state. -/
  | source
  deriving DecidableEq, Repr

/-- The name of the environment variable for the target. -/
def targetVariable : String := "TARGET_MOUNT_POINT"

/-- The name of the environment variable for the network state. -/
def stateVariable : String := "OUTPUT_NETWORK_STATE"

/-- The name of the environment variable for the network config. -/
def configVariable : String := "OUTPUT_NETWORK_CONFIG"

/-- The wording of a missing input. -/
def MissingInput.message : MissingInput → String
  | .target => "Unable to find target. Use --target or set " ++ targetVariable
  | .requestTarget => "Must provide target"
  | .source => "Must provide at least config or state"

/-- An operation on a file whose failure ends a run. -/
inductive FileOperation where
  | readState
  | readConfig
  | remove
  deriving DecidableEq, Repr

/-- The wording of an operation. -/
def FileOperation.message : FileOperation → String
  | .readState => "read network state"
  | .readConfig => "read network config"
  | .remove => "remove"

/-- The cause of a failed run. -/
inductive Error where
  | missing (input : MissingInput)
  | path (reason : PathError)
  | probe (reason : Package.ProbeError)
  /-- A file could not be written. -/
  | write (path : Path) (fault : SystemError)
  /-- The renderer gave up. -/
  | render (reason : String)
  | document (fault : Network.DocumentError)
  | file (operation : FileOperation) (path : Path) (fault : SystemError)
  /-- The system refused something that belongs to no file of the caller. -/
  | system (fault : SystemError)
  /-- A state has no written form. -/
  | unwritable (reason : Yaml.WriteError)
  deriving DecidableEq, Repr

/-- How an error is treated. -/
inductive ErrorKind where
  | missingInput
  | invalidPath
  | pathTraversal
  | probeUnavailable
  | writeError
  | renderError
  | parseError
  | unsupportedConfig
  | ioError
  | io
  | yaml
  deriving DecidableEq, Repr

/-- The kind of a document fault. -/
def Network.DocumentError.kind : Network.DocumentError → ErrorKind
  | .text _ | .state _ => .yaml
  | .unsupportedConfig _ | .invalid (.unsupported _) => .unsupportedConfig
  | _ => .parseError

namespace Error

/-- The kind of an error. -/
def kind : Error → ErrorKind
  | .missing _ => .missingInput
  | .path reason => if reason.isTraversal then .pathTraversal else .invalidPath
  | .probe _ => .probeUnavailable
  | .write _ _ => .writeError
  | .render _ => .renderError
  | .document fault => fault.kind
  | .file _ _ _ => .ioError
  | .system _ => .io
  | .unwritable _ => .yaml

/-- What an error is about, without its kind. -/
def detail : Error → String
  | .missing input => input.message
  | .path reason => reason.message
  | .probe reason => reason.message
  | .write place fault => place.display ++ ": " ++ fault.message
  | .render reason => reason
  | .document fault => fault.message
  | .file operation place fault =>
    "Failed to " ++ operation.message ++ " " ++ place.display ++ ": " ++ fault.message
  | .system fault => fault.message
  | .unwritable reason => reason.message

end Error

/-- What stands before the detail of an error of this kind. -/
def ErrorKind.heading : ErrorKind → String
  | .missingInput => "Missing input: "
  | .invalidPath => "Invalid path: "
  | .pathTraversal => "Path traversal detected: "
  | .probeUnavailable => "Package version unavailable: "
  | .writeError => "Failed to write "
  | .renderError => "Render error: "
  | .parseError => "Parse error: "
  | .unsupportedConfig => "Unsupported network config: "
  | .ioError => "I/O error: "
  | .io => ""
  | .yaml => "YAML error: "

namespace Error

/-- The wording of an error. -/
def message (error : Error) : String :=
  error.kind.heading ++ error.detail

/-- Whether an input is missing. -/
def isMissingInput : Error → Bool
  | .missing _ => true
  | _ => false

/-- Whether the error belongs to a place in a document text. -/
def isLocated : Error → Bool
  | .document (.text error) => error.isLocated
  | .unwritable .key => true
  | _ => false

end Error

end TargetNet
