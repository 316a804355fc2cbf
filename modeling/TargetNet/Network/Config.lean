import TargetNet.Network.ConfigEntry

/-!
# Network configs

A declarative description of a target's networking, as a list of entries. `Builder` takes them in order:
a device becomes an interface, and a device that uses others must come after them. A bond writes its
name into the parameters of its members.
-/

namespace TargetNet.Network

open Yaml (Value Mode Reading RecordShape fill demand)

/-- The interface of a kind that a device describes. -/
def Device.interface (device : Device) (kind : InterfaceKind) : Interface where
  name := device.name
  kind
  mac := device.mac
  mtu := device.mtu
  params := device.params
  subnets := device.subnets

/-- An interface with one parameter set. -/
def Interface.withParam (interface : Interface) (name : String) (value : Value) : Interface :=
  { interface with params := interface.params.insert name value }

/-- Sets a parameter of the first interface with this name. -/
def setParam (interfaces : List Interface) (owner name : String) (value : Value) : List Interface :=
  match interfaces with
  | [] => []
  | interface :: rest =>
    if interface.name = owner then interface.withParam name value :: rest
    else interface :: setParam rest owner name value

/-- Refuses a name that no interface has; `owner` is the one that refers to it. -/
def checkDefined (interfaces : List Interface) (owner name : String) : Except DocumentError Unit :=
  if interfaces.any (·.name = name) then .ok () else .error (.undefined owner name)

/-- Refuses the first of several names that no interface has. -/
def checkAllDefined (interfaces : List Interface) (owner : String) :
    List String → Except DocumentError Unit
  | [] => .ok ()
  | name :: rest => do
    checkDefined interfaces owner name
    checkAllDefined interfaces owner rest

/-- The interfaces with one more. -/
def State.addInterface (state : State) (interface : Interface) : State :=
  { state with interfaces := state.interfaces ++ [interface] }

/-- The interfaces, every one of `members` with its bond's name among its parameters. -/
def enslave (interfaces : List Interface) (bond : String) (members : List String) :
    List Interface :=
  members.foldl (fun interfaces name => setParam interfaces name "bond-master" (.string bond))
    interfaces

/-- Takes an entry into a state. -/
def State.add (state : State) : ConfigEntry → Except DocumentError State
  | .physical device => .ok (state.addInterface (device.interface .physical))
  | .bond device members => do
    checkAllDefined state.interfaces device.name members
    let interface := (device.interface .bond).withParam "bond-slaves" (.string (Text.spaced members))
    let interfaces := enslave state.interfaces device.name members
    return { state with interfaces := interfaces ++ [interface] }
  | .bridge device ports => do
    checkAllDefined state.interfaces device.name ports
    let interface := (device.interface .bridge).withParam "bridge_ports" (.string (Text.spaced ports))
    return state.addInterface interface
  | .vlan device link id => do
    checkDefined state.interfaces device.name link
    let interface := ((device.interface .vlan).withParam "vlan-raw-device" (.string link)).withParam
      "vlan_id" (.int id.toNat)
    return state.addInterface interface
  | .nameserver addresses search =>
    .ok { state with
      dns := ⟨state.dns.nameservers ++ addresses, state.dns.search ++ search⟩ }
  | .route route => .ok { state with routes := state.routes ++ [route] }

/-- The state that entries describe when they are taken in order, not checked as a whole. -/
def State.addAll (state : State) : List ConfigEntry → Except DocumentError State
  | [] => .ok state
  | entry :: rest => do
    let state ← state.add entry
    state.addAll rest

/-- The state that entries describe. -/
def State.ofEntries (entries : List ConfigEntry) : Except DocumentError State := do
  (← State.addAll {} entries).checked

/-! ## Documents -/

/-- The fields of a config that were read. -/
structure ConfigFields where
  version : Option UInt32 := none
  entries : Option (List ConfigEntry) := none

/-- Reads a field of a config. -/
def ConfigFields.set (fields : ConfigFields) (name : String) (value : Value) :
    Reading ConfigFields :=
  match name with
  | "version" => do return { fields with version := ← fill name fields.version value.readUInt32 }
  | "config" => do
    return { fields with
      entries := ← fill name fields.entries (value.readList .document ConfigEntry.read) }
  | _ => .ok fields

/-- How a config is read. -/
def configShape : RecordShape ConfigFields where
  title := "struct NetworkConfigV1"
  fields := ["version", "config"]
  required := ["version"]
  set := ConfigFields.set

/-- Reads the entries of a config. -/
def readConfig (value : Value) : Reading (List ConfigEntry) := do
  let fields ← configShape.read .document {} value
  let _ ← demand "version" fields.version
  return fields.entries.getD []

/-- The key that a config may stand under. -/
def configKey : String := "network"

/-- The part of a document that is the config. -/
def configOf (document : Value) : Except DocumentError Value :=
  match document with
  | .mapping entries => .ok ((Value.lookup? configKey entries).getD document)
  | _ => .error .configNotMapping

/-- Checks the version of a config. -/
def checkConfigVersion (value : Value) : Except DocumentError Unit :=
  match (value.get? "version").bind Value.asNat? with
  | none => .error .noConfigVersion
  | some n => if n = supportedVersion.toNat then .ok () else .error (.unsupportedConfig n)

/-- The entries of the config in a document. -/
def entriesOf (document : Value) : Except DocumentError (List ConfigEntry) := do
  let value ← configOf document
  checkConfigVersion value
  match readConfig value with
  | .ok entries => .ok entries
  | .error mismatch => .error (.config mismatch)

/-- The state that a config document describes. -/
def State.ofConfigDocument (document : Value) : Except DocumentError State := do
  State.ofEntries (← entriesOf document)

/-- The entries of the config in a text. -/
def parseEntries (text : String) : Except DocumentError (List ConfigEntry) :=
  match Yaml.readDocument text with
  | .ok document => entriesOf document
  | .error error => .error (.text error)

/-- The state that a config text describes. -/
def State.parseConfig (text : String) : Except DocumentError State := do
  State.ofEntries (← parseEntries text)

end TargetNet.Network
