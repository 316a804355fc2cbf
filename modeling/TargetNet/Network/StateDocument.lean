import TargetNet.Network.DocumentError
import TargetNet.Yaml.Document

/-!
# Network states as documents

`toValue` writes each part of a state as a document value and leaves out what is empty, the lists of
interfaces and subnets and the resolver settings apart; `read` reads it back. A state may stand at the
top of its document or under the key `network_state`.

The parts are also read inside config entries, so their readers take the `Mode` of reading.
-/

namespace TargetNet.Network

open Yaml (Value Mode Reading RecordShape Variants fill demand)

/-- An entry of a mapping with a name as its key. -/
def field (name : String) (value : Value) : Value × Value :=
  (.string name, value)

/-- The entry for a text that may be missing. -/
def textField (name : String) : Option String → List (Value × Value)
  | none => []
  | some text => [field name (.string text)]

/-- The entry for a number that may be missing. -/
def numberField (name : String) : Option UInt32 → List (Value × Value)
  | none => []
  | some n => [field name (.int n.toNat)]

/-- A list of texts. -/
def textList (texts : List String) : Value :=
  .sequence (texts.map .string)

/-- The entry for a list of texts, left out when it is empty. -/
def textListField (name : String) (texts : List String) : List (Value × Value) :=
  if texts.isEmpty then [] else [field name (textList texts)]

/-- Reads a text that may be null. -/
def readText? : Value → Reading (Option String) :=
  Value.readOption Value.readString

/-- Reads a number that may be null. -/
def readNumber? : Value → Reading (Option UInt32) :=
  Value.readOption Value.readUInt32

/-- Reads a list of texts. -/
def readTexts (mode : Mode) : Value → Reading (List String) :=
  Value.readList mode Value.readString

/-! ## Subnets -/

/-- The kinds of subnets by name; `dhcp` is another name of `dhcp4`. -/
def subnetKinds : Variants SubnetKind :=
  ⟨("dhcp", .dhcp4) :: SubnetKind.all.map fun kind => (kind.name, kind), SubnetKind.all⟩

/-- The controls by name. -/
def controls : Variants Control :=
  ⟨Control.all.map fun control => (control.name, control), Control.all⟩

/-- The fields of a subnet that were read. -/
structure SubnetFields where
  kind : Option SubnetKind := none
  address : Option (Option String) := none
  netmask : Option (Option String) := none
  gateway : Option (Option String) := none
  control : Option Control := none
  nameservers : Option (List String) := none
  search : Option (List String) := none

/-- Reads a field of a subnet. -/
def SubnetFields.set (mode : Mode) (fields : SubnetFields) (name : String) (value : Value) :
    Reading SubnetFields :=
  match name with
  | "type" => do return { fields with kind := ← fill name fields.kind (subnetKinds.read mode value) }
  | "address" => do return { fields with address := ← fill name fields.address (readText? value) }
  | "netmask" => do return { fields with netmask := ← fill name fields.netmask (readText? value) }
  | "gateway" => do return { fields with gateway := ← fill name fields.gateway (readText? value) }
  | "control" => do
    return { fields with control := ← fill name fields.control (controls.read mode value) }
  | "dns_nameservers" => do
    return { fields with nameservers := ← fill name fields.nameservers (readTexts mode value) }
  | "dns_search" => do
    return { fields with search := ← fill name fields.search (readTexts mode value) }
  | _ => .ok fields

/-- How a subnet is read. -/
def subnetShape (mode : Mode) : RecordShape SubnetFields where
  title := "struct Subnet"
  fields :=
    ["type", "address", "netmask", "gateway", "control", "dns_nameservers", "dns_search"]
  required := ["type"]
  set := SubnetFields.set mode

/-- The subnet made of some fields. -/
def SubnetFields.finish (fields : SubnetFields) : Reading Subnet := do
  let kind ← demand "type" fields.kind
  return {
    kind
    address := fields.address.join
    netmask := fields.netmask.join
    gateway := fields.gateway.join
    control := fields.control.getD .auto
    nameservers := fields.nameservers.getD []
    search := fields.search.getD [] }

/-- Reads a subnet. -/
def Subnet.read (mode : Mode) (value : Value) : Reading Subnet := do
  ((← (subnetShape mode).read mode {} value)).finish

/-- A subnet as a value. -/
def Subnet.toValue (subnet : Subnet) : Value :=
  .mapping (field "type" (.string subnet.kind.name) ::
    (textField "address" subnet.address ++ textField "netmask" subnet.netmask ++
      textField "gateway" subnet.gateway ++ field "control" (.string subnet.control.name) ::
      (textListField "dns_nameservers" subnet.nameservers ++
        textListField "dns_search" subnet.search)))

/-! ## Routes -/

/-- The fields of a route that were read. -/
structure RouteFields where
  network : Option String := none
  netmask : Option (Option String) := none
  gateway : Option String := none
  metric : Option (Option UInt32) := none

/-- Reads a field of a route. -/
def RouteFields.set (fields : RouteFields) (name : String) (value : Value) : Reading RouteFields :=
  match name with
  | "network" => do return { fields with network := ← fill name fields.network value.readString }
  | "netmask" => do return { fields with netmask := ← fill name fields.netmask (readText? value) }
  | "gateway" => do return { fields with gateway := ← fill name fields.gateway value.readString }
  | "metric" => do return { fields with metric := ← fill name fields.metric (readNumber? value) }
  | _ => .ok fields

/-- How a route is read. The network may be called `destination`. -/
def routeShape : RecordShape RouteFields where
  title := "struct Route"
  fields := ["network", "netmask", "gateway", "metric"]
  required := ["network", "gateway"]
  aliases := [("destination", "network")]
  set := RouteFields.set

/-- The route made of some fields. -/
def RouteFields.finish (fields : RouteFields) : Reading Route := do
  let network ← demand "network" fields.network
  let gateway ← demand "gateway" fields.gateway
  return { network, netmask := fields.netmask.join, gateway, metric := fields.metric.join }

/-- Reads a route. -/
def Route.read (mode : Mode) (value : Value) : Reading Route := do
  (← routeShape.read mode {} value).finish

/-- A route as a value. -/
def Route.toValue (route : Route) : Value :=
  .mapping (field "network" (.string route.network) ::
    (textField "netmask" route.netmask ++ field "gateway" (.string route.gateway) ::
      numberField "metric" route.metric))

/-! ## Parameters -/

/-- Reads parameters, whose values are of any kind. -/
def Params.read (mode : Mode) (value : Value) : Reading Params := do
  let entries ← (← value.readEntries mode).mapM fun (key, value) => do
    return (← key.readString, ← value.readAny)
  return Params.ofList entries

/-- Parameters as a value. -/
def Params.toValue (params : Params) : Value :=
  .mapping (params.entries.map fun (name, value) => field name value)

/-! ## Interfaces -/

/-- The kinds of interfaces by name. -/
def interfaceKinds : Variants InterfaceKind :=
  ⟨InterfaceKind.all.map fun kind => (kind.name, kind), InterfaceKind.all⟩

/-- The fields of an interface that were read. -/
structure InterfaceFields where
  name : Option String := none
  kind : Option InterfaceKind := none
  mac : Option (Option String) := none
  mtu : Option (Option UInt32) := none
  params : Option Params := none
  subnets : Option (List Subnet) := none

/-- Reads a field of an interface, its type apart. -/
def InterfaceFields.setDevice (mode : Mode) (fields : InterfaceFields) (name : String)
    (value : Value) : Reading InterfaceFields :=
  match name with
  | "name" => do return { fields with name := ← fill name fields.name value.readString }
  | "mac_address" => do return { fields with mac := ← fill name fields.mac (readText? value) }
  | "mtu" => do return { fields with mtu := ← fill name fields.mtu (readNumber? value) }
  | "params" => do
    return { fields with params := ← fill name fields.params (Params.read mode value) }
  | "subnets" => do
    return { fields with
      subnets := ← fill name fields.subnets (value.readList mode (Subnet.read mode)) }
  | _ => .ok fields

/-- Reads a field of an interface. -/
def InterfaceFields.set (mode : Mode) (fields : InterfaceFields) (name : String) (value : Value) :
    Reading InterfaceFields :=
  match name with
  | "type" => do
    return { fields with kind := ← fill name fields.kind (interfaceKinds.read mode value) }
  | _ => fields.setDevice mode name value

/-- How an interface is read. -/
def interfaceShape : RecordShape InterfaceFields where
  title := "struct Interface"
  fields := ["name", "type", "mac_address", "mtu", "params", "subnets"]
  required := ["name", "type"]
  set := InterfaceFields.set .document

/-- The interface of a kind made of some fields. -/
def InterfaceFields.interface (fields : InterfaceFields) (name : String) (kind : InterfaceKind) :
    Interface where
  name
  kind
  mac := fields.mac.join
  mtu := fields.mtu.join
  params := fields.params.getD ∅
  subnets := fields.subnets.getD []

/-- Reads an interface. -/
def Interface.read (value : Value) : Reading Interface := do
  let fields ← interfaceShape.read .document {} value
  let name ← demand "name" fields.name
  let kind ← demand "type" fields.kind
  return fields.interface name kind

/-- An interface as a value. -/
def Interface.toValue (interface : Interface) : Value :=
  .mapping (field "name" (.string interface.name) ::
    field "type" (.string interface.kind.name) ::
    (textField "mac_address" interface.mac ++ numberField "mtu" interface.mtu ++
      (if interface.params.isEmpty then [] else [field "params" interface.params.toValue]) ++
      [field "subnets" (.sequence (interface.subnets.map Subnet.toValue))]))

/-! ## Resolver settings -/

/-- The fields of resolver settings that were read. -/
structure DnsFields where
  nameservers : Option (List String) := none
  search : Option (List String) := none

/-- Reads a field of the resolver settings. -/
def DnsFields.set (fields : DnsFields) (name : String) (value : Value) : Reading DnsFields :=
  match name with
  | "nameservers" => do
    return { fields with nameservers := ← fill name fields.nameservers (readTexts .document value) }
  | "search" => do
    return { fields with search := ← fill name fields.search (readTexts .document value) }
  | _ => .ok fields

/-- How resolver settings are read. -/
def dnsShape : RecordShape DnsFields where
  title := "struct Dns"
  fields := ["nameservers", "search"]
  required := []
  set := DnsFields.set

/-- Reads resolver settings. -/
def Dns.read (value : Value) : Reading Dns := do
  let fields ← dnsShape.read .document {} value
  return { nameservers := fields.nameservers.getD [], search := fields.search.getD [] }

/-- Resolver settings as a value. -/
def Dns.toValue (dns : Dns) : Value :=
  .mapping (textListField "nameservers" dns.nameservers ++ textListField "search" dns.search)

/-! ## States -/

/-- The fields of a state that were read. -/
structure StateFields where
  version : Option UInt32 := none
  interfaces : Option (List Interface) := none
  routes : Option (List Route) := none
  dns : Option Dns := none

/-- Reads a field of a state. -/
def StateFields.set (fields : StateFields) (name : String) (value : Value) : Reading StateFields :=
  match name with
  | "version" => do return { fields with version := ← fill name fields.version value.readUInt32 }
  | "interfaces" => do
    return { fields with
      interfaces := ← fill name fields.interfaces (value.readList .document Interface.read) }
  | "routes" => do
    return { fields with
      routes := ← fill name fields.routes (value.readList .document (Route.read .document)) }
  | "dns" => do return { fields with dns := ← fill name fields.dns (Dns.read value) }
  | _ => .ok fields

/-- How a state is read. -/
def stateShape : RecordShape StateFields where
  title := "struct NetworkState"
  fields := ["version", "interfaces", "routes", "dns"]
  required := []
  set := StateFields.set

/-- Reads a state. -/
def State.read (value : Value) : Reading State := do
  let fields ← stateShape.read .document {} value
  return {
    version := fields.version.getD supportedVersion
    interfaces := fields.interfaces.getD []
    routes := fields.routes.getD []
    dns := fields.dns.getD {} }

/-- A state as a value. -/
def State.toValue (state : State) : Value :=
  .mapping (field "version" (.int state.version.toNat) ::
    field "interfaces" (.sequence (state.interfaces.map Interface.toValue)) ::
    ((if state.routes.isEmpty then []
      else [field "routes" (.sequence (state.routes.map Route.toValue))]) ++
      [field "dns" state.dns.toValue]))

/-- The key that a state may stand under. -/
def stateKey : String := "network_state"

/-- The part of a document that is the state. -/
def stateOf (document : Value) : Except DocumentError Value :=
  match document with
  | .mapping entries => .ok ((Value.lookup? stateKey entries).getD document)
  | .null => .error .emptyState
  | _ => .error .stateNotMapping

/-- A state that satisfies what every state must satisfy. -/
def State.checked (state : State) : Except DocumentError State :=
  match state.validate with
  | .ok () => .ok state
  | .error reason => .error (.invalid reason)

/-- The state that a document describes. -/
def State.ofDocument (document : Value) : Except DocumentError State := do
  let value ← stateOf document
  match State.read value with
  | .ok state => state.checked
  | .error mismatch => .error (.state mismatch)

/-- The state that a text describes. -/
def State.parse (text : String) : Except DocumentError State :=
  match Yaml.readDocument text with
  | .ok document => State.ofDocument document
  | .error error => .error (.text error)

end TargetNet.Network
