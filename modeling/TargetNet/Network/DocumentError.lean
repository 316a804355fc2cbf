import TargetNet.Network.State
import TargetNet.Yaml.ReadError
import TargetNet.Yaml.Reading

/-!
# Errors of network documents

Why a document describes no network state. The two kinds of documents, states and configs, word the
same mismatch differently.
-/

namespace TargetNet.Network

/-- A fault of a network document. -/
inductive DocumentError where
  /-- The text is no document at all. -/
  | text (error : Yaml.ReadError)
  /-- Something in a state document has the wrong type. -/
  | state (mismatch : Yaml.Mismatch)
  | emptyState
  | stateNotMapping
  | configNotMapping
  | noConfigVersion
  | unsupportedConfig (version : Nat)
  /-- Something in a config document has the wrong type. -/
  | config (mismatch : Yaml.Mismatch)
  /-- An entry refers to an interface that no entry before it describes. -/
  | undefined (owner name : String)
  /-- The state is well formed, but no state to use. -/
  | invalid (reason : Invalid)
  deriving DecidableEq, Repr

/-- The wording of a fault. -/
def DocumentError.message : DocumentError → String
  | .text error => error.message
  | .state mismatch => mismatch.message
  | .emptyState => "network state document is empty"
  | .stateNotMapping => "network state document must be a mapping"
  | .configNotMapping => "network config document must be a mapping"
  | .noConfigVersion => "network config has no version"
  | .unsupportedConfig version =>
    "network config version " ++ Decimal.text version ++ " (only version " ++
      Decimal.text supportedVersion.toNat ++ " is supported)"
  | .config mismatch => "Invalid network config: " ++ mismatch.message
  | .undefined owner name => owner ++ " references undefined interface " ++ name
  | .invalid reason => reason.message

end TargetNet.Network
