import TargetNet.Decimal.Numeral
import TargetNet.Text.Blank
import TargetNet.Network.Params

/-!
# Network states

The description of a target's networking that everything else is made from: its interfaces with their
subnets, routes that belong to no subnet, and the resolver settings. `State.validate` checks what every
source of a state must guarantee.
-/

namespace TargetNet.Network

/-- What an interface is, in the order of rank: a kind of higher rank may use those below it. -/
inductive InterfaceKind where
  | physical
  | bond
  | bridge
  | vlan
  deriving DecidableEq, Repr, Inhabited

/-- The place of a kind in the order of output. -/
def InterfaceKind.rank : InterfaceKind → Nat
  | .physical => 0
  | .bond => 1
  | .bridge => 2
  | .vlan => 3

/-- The name of a kind. -/
def InterfaceKind.name : InterfaceKind → String
  | .physical => "physical"
  | .bond => "bond"
  | .bridge => "bridge"
  | .vlan => "vlan"

/-- All kinds. -/
def InterfaceKind.all : List InterfaceKind :=
  [.physical, .bond, .bridge, .vlan]

/-- How a subnet gets its address. -/
inductive SubnetKind where
  | dhcp4
  | dhcp6
  | static
  | static6
  | manual
  deriving DecidableEq, Repr, Inhabited

/-- The name of a kind of subnet. -/
def SubnetKind.name : SubnetKind → String
  | .dhcp4 => "dhcp4"
  | .dhcp6 => "dhcp6"
  | .static => "static"
  | .static6 => "static6"
  | .manual => "manual"

/-- All kinds of subnets. -/
def SubnetKind.all : List SubnetKind :=
  [.dhcp4, .dhcp6, .static, .static6, .manual]

/-- Whether the address comes from a server. -/
def SubnetKind.isDhcp : SubnetKind → Bool
  | .dhcp4 | .dhcp6 => true
  | _ => false

/-- Whether the address is written down. -/
def SubnetKind.isStatic : SubnetKind → Bool
  | .static | .static6 => true
  | _ => false

/-- When a subnet is brought up. -/
inductive Control where
  | auto
  | hotplug
  | manual
  deriving DecidableEq, Repr, Inhabited

/-- The name of a control. -/
def Control.name : Control → String
  | .auto => "auto"
  | .hotplug => "hotplug"
  | .manual => "manual"

/-- All controls. -/
def Control.all : List Control :=
  [.auto, .hotplug, .manual]

/-- One address configuration of an interface. -/
structure Subnet where
  kind : SubnetKind
  address : Option String := none
  netmask : Option String := none
  gateway : Option String := none
  control : Control := .auto
  nameservers : List String := []
  search : List String := []
  deriving DecidableEq, Repr, Inhabited

/-- Whether a text has a colon in it. -/
def hasColon (s : String) : Bool :=
  s.toList.contains ':'

/-- Whether a subnet is one of the sixth version of the protocol. -/
def Subnet.isIpv6 (subnet : Subnet) : Bool :=
  match subnet.kind with
  | .dhcp6 | .static6 => true
  | .static => subnet.address.any hasColon
  | .dhcp4 | .manual => false

/-- A network interface. -/
structure Interface where
  name : String
  kind : InterfaceKind
  mac : Option String := none
  mtu : Option UInt32 := none
  params : Params := ∅
  subnets : List Subnet := []
  deriving Inhabited

/-- A static route. -/
structure Route where
  network : String
  netmask : Option String := none
  gateway : String
  metric : Option UInt32 := none
  deriving DecidableEq, Repr, Inhabited

/-- Settings of the resolver. -/
structure Dns where
  nameservers : List String := []
  search : List String := []
  deriving DecidableEq, Repr, Inhabited

/-- The version of the descriptions that are understood. -/
def supportedVersion : UInt32 := 1

/-- The networking of a target. -/
structure State where
  version : UInt32 := supportedVersion
  interfaces : List Interface := []
  routes : List Route := []
  dns : Dns := {}
  deriving Inhabited

/-- Whether two interfaces agree in every field. -/
def Interface.same (a b : Interface) : Bool :=
  a.name == b.name && a.kind == b.kind && a.mac == b.mac && a.mtu == b.mtu &&
    a.params.same b.params && a.subnets == b.subnets

/-- Whether two lists of interfaces agree item by item. -/
def sameInterfaces : List Interface → List Interface → Bool
  | [], [] => true
  | a :: as, b :: bs => a.same b && sameInterfaces as bs
  | _, _ => false

namespace State

/-- Whether two states agree in every field. -/
def same (a b : State) : Bool :=
  a.version == b.version && sameInterfaces a.interfaces b.interfaces && a.routes == b.routes &&
    a.dns == b.dns

/-- The interface of this name. -/
def interface? (state : State) (name : String) : Option Interface :=
  state.interfaces.find? (·.name == name)

end State

/-- Why a state is refused. -/
inductive Invalid where
  | unsupported (version : UInt32)
  | blankName
  | loopback
  | duplicateName (name : String)
  | noAddress (name : String)
  deriving DecidableEq, Repr

/-- The wording of a refusal. -/
def Invalid.message : Invalid → String
  | .unsupported version =>
    "network state version " ++ Decimal.text version.toNat ++ " (expected " ++
      Decimal.text supportedVersion.toNat ++ ")"
  | .blankName => "interface with empty name"
  | .loopback => "loopback is managed implicitly and cannot be configured"
  | .duplicateName name => "duplicate interface name: " ++ name
  | .noAddress name => "static subnet on " ++ name ++ " has no address"

/-- Checks one interface, `seen` being the names before it. -/
def Interface.validate (seen : List String) (interface : Interface) : Except Invalid Unit :=
  if Text.allBlank interface.name then .error .blankName
  else if interface.name == "lo" then .error .loopback
  else if seen.contains interface.name then .error (.duplicateName interface.name)
  else if interface.subnets.any fun s => s.kind.isStatic && s.address.isNone then
    .error (.noAddress interface.name)
  else .ok ()

/-- Checks interfaces in order, `seen` being the names before them. -/
def validateInterfaces (seen : List String) : List Interface → Except Invalid Unit
  | [] => .ok ()
  | interface :: rest => do
    interface.validate seen
    validateInterfaces (interface.name :: seen) rest

/-- Checks what every state must satisfy: the version is the supported one, names are not blank, not
that of the loopback interface and not repeated, and static subnets have an address. -/
def State.validate (state : State) : Except Invalid Unit :=
  if state.version ≠ supportedVersion then .error (.unsupported state.version)
  else validateInterfaces [] state.interfaces

end TargetNet.Network
