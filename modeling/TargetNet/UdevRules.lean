import TargetNet.Network.State
import TargetNet.Text.LowerCase

/-!
# Naming rules

Rules that keep the name of a physical interface with its hardware address: one for each that has an
address, in the order of the names. Addresses are compared in lower case by the system, so they are
written that way.
-/

namespace TargetNet.UdevRules

open Network (State Interface)

/-- A rule: the interface with this address has this name. -/
structure Rule where
  mac : String
  name : String
  deriving DecidableEq, Repr

/-- The rule of an interface, if it needs one. -/
def rule? (interface : Interface) : Option Rule :=
  if interface.kind = .physical then interface.mac.map fun mac => ⟨mac, interface.name⟩ else none

/-- The rules of a state. -/
def rules (state : State) : List Rule :=
  (state.interfaces.filterMap rule?).mergeSort fun a b => decide (a.name ≤ b.name)

/-- The line of a rule. -/
def Rule.line (rule : Rule) : String :=
  "SUBSYSTEM==\"net\", ACTION==\"add\", DRIVERS==\"?*\", ATTR\x7baddress\x7d==\"" ++
    Text.lower rule.mac ++ "\", NAME=\"" ++ rule.name ++ "\"\n"

/-- The text of the file with the rules of a state. -/
def render (state : State) : String :=
  String.join ((rules state).map Rule.line)

end TargetNet.UdevRules
