import TargetNet.Interfaces.Stanza

/-!
# Stanzas of a state

The stanzas that configure a network state: the loopback interface with the resolver settings and the
routes, then one block for every interface, in the order of their kinds and names. The first subnet of
an interface is configured under its name, the others under aliases `name:1`, `name:2` and so on.

Aliases are brought up on their own, or (`postupAlias`) by commands in the stanza of the interface. What
concerns the interface as a whole stands in its first stanza.
-/

namespace TargetNet.Interfaces

open Network (State Interface Subnet SubnetKind Route)
open Yaml (Value)

/-- The option for a text that may be missing. -/
def textSetting (keyword : String) : Option String → List Setting
  | none => []
  | some value => [⟨keyword, value⟩]

/-- The option for a list, left out when it is empty. -/
def listSetting (keyword : String) (texts : List String) : List Setting :=
  if texts.isEmpty then [] else [⟨keyword, Text.spaced texts⟩]

/-- The options of resolver settings. -/
def dnsSettings (nameservers search : List String) : List Setting :=
  listSetting "dns-nameservers" nameservers ++ listSetting "dns-search" search

/-! ## Routes -/

/-- The destinations that mean all networks. -/
def defaultNetworks : List String :=
  ["default", "0.0.0.0", "0.0.0.0/0", "::", "::/0"]

/-- The masks that leave all networks. -/
def defaultNetmasks : List String :=
  ["0.0.0.0", "0"]

/-- Whether a route is the default route. -/
def isDefaultRoute (route : Route) : Bool :=
  defaultNetworks.contains route.network && route.netmask.all defaultNetmasks.contains

/-- The destination of a route, as an argument of `route`. -/
def routeTarget (route : Route) : String :=
  match isDefaultRoute route, Network.hasColon route.network with
  | true, true => "-A inet6 default"
  | true, false => "default"
  | false, true => "-A inet6 " ++ route.network
  | false, false =>
    match route.netmask with
    | some netmask => "-net " ++ route.network ++ " netmask " ++ netmask
    | none => "-net " ++ route.network

/-- What is added and deleted for a route. -/
def routeText (route : Route) : String :=
  routeTarget route ++ " gw " ++ route.gateway ++
    match route.metric with
    | some metric => " metric " ++ Decimal.text metric.toNat
    | none => ""

/-- The options of a route. -/
def routeSettings (route : Route) : List Setting :=
  [⟨"post-up", "route add " ++ routeText route⟩, ⟨"pre-down", "route del " ++ routeText route⟩]

/-! ## Parameters -/

mutual

/-- The text of a parameter: a list is flattened, and what has no text is left out. -/
def paramText : Value → Option String
  | .string s => some s
  | .int n => some (Decimal.intText n)
  | .float x => some (Value.floatText x)
  | .bool true => some "on"
  | .bool false => some "off"
  | .sequence items =>
    let texts := paramTexts items
    if texts.isEmpty then none else some (Text.spaced texts)
  | .null | .mapping _ | .tagged _ _ => none

/-- The texts of several parameters. -/
def paramTexts : List Value → List String
  | [] => []
  | value :: rest =>
    match paramText value with
    | some text => text :: paramTexts rest
    | none => paramTexts rest

end

/-- The option for a parameter. -/
def paramSetting? (param : String × Value) : Option Setting :=
  (paramText param.2).map fun text => ⟨param.1, text⟩

/-! ## Interfaces -/

/-- The options that concern an interface as a whole. A physical one is told by its address elsewhere,
so only others are given theirs here. -/
def interfaceSettings (interface : Interface) : List Setting :=
  (if interface.kind = .physical then []
    else textSetting "hwaddress" (interface.mac.map fun mac => "ether " ++ mac)) ++
    interface.params.entries.filterMap paramSetting?

/-- The family of a subnet. -/
def familyOf (subnet : Subnet) : Family :=
  if subnet.isIpv6 then .inet6 else .inet

/-- The method of a kind of subnet. -/
def methodOf : SubnetKind → Method
  | .dhcp4 | .dhcp6 => .dhcp
  | .static | .static6 => .static
  | .manual => .manual

/-- The options of a subnet. -/
def subnetSettings (subnet : Subnet) : List Setting :=
  textSetting "address" subnet.address ++ textSetting "netmask" subnet.netmask ++
    textSetting "gateway" subnet.gateway ++ dnsSettings subnet.nameservers subnet.search

/-- The option for the MTU of an interface. -/
def mtuSettings (interface : Interface) : List Setting :=
  textSetting "mtu" (interface.mtu.map fun mtu => Decimal.text mtu.toNat)

/-- The name of an alias of an interface. -/
def aliasName (name : String) (index : Nat) : String :=
  name ++ ":" ++ Decimal.text index

/-- The name that a subnet is configured under. -/
def stanzaName (name : String) (index : Nat) : String :=
  if index = 0 then name else aliasName name index

/-- The commands that bring one alias up and down together with its interface. -/
def aliasSettings (name : String) (index : Nat) : List Setting :=
  [⟨"post-up", "ifup " ++ aliasName name index⟩, ⟨"pre-down", "ifdown " ++ aliasName name index⟩]

/-- The commands for all aliases of an interface. -/
def allAliasSettings (interface : Interface) : List Setting :=
  (List.range' 1 (interface.subnets.length - 1)).flatMap (aliasSettings interface.name)

/-- The stanza of a subnet. -/
def subnetStanza (postupAlias : Bool) (interface : Interface) (index : Nat) (subnet : Subnet) :
    Stanza where
  control := if postupAlias && index ≠ 0 then none else some subnet.control
  name := stanzaName interface.name index
  family := familyOf subnet
  method := methodOf subnet.kind
  settings := subnetSettings subnet ++ mtuSettings interface ++
    if index = 0 then
      interfaceSettings interface ++ if postupAlias then allAliasSettings interface else []
    else []

/-- The stanza of an interface without subnets. It is brought up if others may need it. -/
def bareStanza (interface : Interface) : Stanza where
  control :=
    if interface.kind ≠ .physical || interface.params.contains "bond-master" then some .auto
    else none
  name := interface.name
  family := .inet
  method := .manual
  settings := interfaceSettings interface

/-- The stanzas of subnets, the first of which has this index. -/
def subnetStanzas (postupAlias : Bool) (interface : Interface) (index : Nat) :
    List Subnet → List Stanza
  | [] => []
  | subnet :: rest =>
    subnetStanza postupAlias interface index subnet ::
      subnetStanzas postupAlias interface (index + 1) rest

/-- The stanzas of an interface. -/
def interfaceStanzas (postupAlias : Bool) (interface : Interface) : List Stanza :=
  match interface.subnets with
  | [] => [bareStanza interface]
  | subnets => subnetStanzas postupAlias interface 0 subnets

/-! ## States -/

/-- The stanza of the loopback interface. -/
def loopbackStanza (state : State) : Stanza where
  control := some .auto
  name := "lo"
  family := .inet
  method := .loopback
  settings := dnsSettings state.dns.nameservers state.dns.search ++
    state.routes.flatMap routeSettings

/-- Whether an interface comes before another one, or is as good: by kind, then by name. -/
def comesBefore (a b : Interface) : Bool :=
  a.kind.rank < b.kind.rank || (a.kind.rank == b.kind.rank && decide (a.name ≤ b.name))

/-- Interfaces in the order of output. -/
def inOrder (interfaces : List Interface) : List Interface :=
  interfaces.mergeSort comesBefore

/-- The stanzas of a state. -/
def stanzas (postupAlias : Bool) (state : State) : List Stanza :=
  loopbackStanza state :: (inOrder state.interfaces).flatMap (interfaceStanzas postupAlias)

/-- The text of the file that configures a state. -/
def render (postupAlias : Bool) (state : State) : String :=
  text (stanzas postupAlias state)

end TargetNet.Interfaces
