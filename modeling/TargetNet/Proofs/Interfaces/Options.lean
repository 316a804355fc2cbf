import Mathlib.Tactic.Common
import TargetNet.Proofs.Interfaces.Names

/-!
# Where options come from

Every option of a stanza comes from one place of the state: the resolver settings, a route, a subnet,
or an interface with its parameters and aliases. `OfState` has a constructor for each, and no stanza
has any other option (`OfState.of_mem`).
-/

namespace TargetNet.Interfaces

open Network (State Interface Subnet Route)

/-- The options of resolver settings. -/
inductive OfDns (nameservers search : List String) : Setting → Prop
  | nameservers : nameservers ≠ [] →
    OfDns nameservers search ⟨"dns-nameservers", Text.spaced nameservers⟩
  | search : search ≠ [] → OfDns nameservers search ⟨"dns-search", Text.spaced search⟩

/-- The options of a route. -/
inductive OfRoute (route : Route) : Setting → Prop
  | added : OfRoute route ⟨"post-up", "route add " ++ routeText route⟩
  | deleted : OfRoute route ⟨"pre-down", "route del " ++ routeText route⟩

/-- The options of a subnet. -/
inductive OfSubnet (subnet : Subnet) : Setting → Prop
  | address {text : String} : subnet.address = some text → OfSubnet subnet ⟨"address", text⟩
  | netmask {text : String} : subnet.netmask = some text → OfSubnet subnet ⟨"netmask", text⟩
  | gateway {text : String} : subnet.gateway = some text → OfSubnet subnet ⟨"gateway", text⟩
  | dns {setting : Setting} : OfDns subnet.nameservers subnet.search setting →
    OfSubnet subnet setting

/-- The options of an interface. -/
inductive OfInterface (interface : Interface) : Setting → Prop
  | subnet {subnet : Subnet} {setting : Setting} : subnet ∈ interface.subnets →
    OfSubnet subnet setting → OfInterface interface setting
  | mtu {mtu : UInt32} : interface.mtu = some mtu →
    OfInterface interface ⟨"mtu", Decimal.text mtu.toNat⟩
  | mac {mac : String} : interface.kind ≠ .physical → interface.mac = some mac →
    OfInterface interface ⟨"hwaddress", "ether " ++ mac⟩
  | param {name text : String} {value : Yaml.Value} : (name, value) ∈ interface.params.entries →
    paramText value = some text → OfInterface interface ⟨name, text⟩
  | aliasUp {name : String} : name ∈ aliasNames interface →
    OfInterface interface ⟨"post-up", "ifup " ++ name⟩
  | aliasDown {name : String} : name ∈ aliasNames interface →
    OfInterface interface ⟨"pre-down", "ifdown " ++ name⟩

/-- The options of a state. -/
inductive OfState (state : State) : Setting → Prop
  | dns {setting : Setting} : OfDns state.dns.nameservers state.dns.search setting →
    OfState state setting
  | route {route : Route} {setting : Setting} : route ∈ state.routes → OfRoute route setting →
    OfState state setting
  | interface {interface : Interface} {setting : Setting} : interface ∈ state.interfaces →
    OfInterface interface setting → OfState state setting

variable {setting : Setting}

/-- The option for a text is there if the text is. -/
lemma mem_textSetting_iff {keyword : String} {value? : Option String} :
    setting ∈ textSetting keyword value? ↔
      ∃ value, value? = some value ∧ ⟨keyword, value⟩ = setting := by
  cases value? <;> simp [textSetting, eq_comm]

lemma mem_listSetting_iff {keyword : String} {texts : List String} :
    setting ∈ listSetting keyword texts ↔ texts ≠ [] ∧ ⟨keyword, Text.spaced texts⟩ = setting := by
  cases texts <;> simp [listSetting, eq_comm]

/-- What is written for resolver settings is an option of theirs. -/
lemma OfDns.of_mem {nameservers search : List String}
    (mem : setting ∈ dnsSettings nameservers search) : OfDns nameservers search setting := by
  rcases List.mem_append.1 mem with mem | mem
  · obtain ⟨some, rfl⟩ := mem_listSetting_iff.1 mem
    exact .nameservers some
  · obtain ⟨some, rfl⟩ := mem_listSetting_iff.1 mem
    exact .search some

/-- What is written for a route is an option of it. -/
lemma OfRoute.of_mem {route : Route} (mem : setting ∈ routeSettings route) :
    OfRoute route setting := by
  rcases List.mem_pair.1 mem with rfl | rfl
  · exact .added
  · exact .deleted

/-- What is written for a subnet is an option of it. -/
lemma OfSubnet.of_mem {subnet : Subnet} (mem : setting ∈ subnetSettings subnet) :
    OfSubnet subnet setting := by
  rw [subnetSettings, List.mem_append, List.mem_append, List.mem_append] at mem
  rcases mem with ((mem | mem) | mem) | mem
  · obtain ⟨text, given, rfl⟩ := mem_textSetting_iff.1 mem
    exact .address given
  · obtain ⟨text, given, rfl⟩ := mem_textSetting_iff.1 mem
    exact .netmask given
  · obtain ⟨text, given, rfl⟩ := mem_textSetting_iff.1 mem
    exact .gateway given
  · exact .dns (.of_mem mem)

namespace OfInterface

variable {interface : Interface}

/-- What is written for the MTU is an option of the interface. -/
lemma of_mem_mtuSettings (mem : setting ∈ mtuSettings interface) : OfInterface interface setting := by
  obtain ⟨text, given, rfl⟩ := mem_textSetting_iff.1 mem
  obtain ⟨mtu, known, rfl⟩ := Option.map_eq_some_iff.1 given
  exact .mtu known

/-- What is written for an interface as a whole is an option of it. -/
lemma of_mem_interfaceSettings (mem : setting ∈ interfaceSettings interface) :
    OfInterface interface setting := by
  rcases List.mem_append.1 mem with mem | mem
  · split at mem
    · cases mem
    · rename_i other
      obtain ⟨text, given, rfl⟩ := mem_textSetting_iff.1 mem
      obtain ⟨mac, known, rfl⟩ := Option.map_eq_some_iff.1 given
      exact .mac other known
  · obtain ⟨⟨name, value⟩, inside, shown⟩ := List.mem_filterMap.1 mem
    obtain ⟨text, printed, rfl⟩ := Option.map_eq_some_iff.1 shown
    exact .param inside printed

/-- What is written for its aliases is an option of an interface. -/
lemma of_mem_allAliasSettings (mem : setting ∈ allAliasSettings interface) :
    OfInterface interface setting := by
  obtain ⟨index, inside, mem⟩ := List.mem_flatMap.1 mem
  have named : aliasName interface.name index ∈ aliasNames interface := List.mem_map_of_mem inside
  rcases List.mem_pair.1 mem with rfl | rfl
  · exact .aliasUp named
  · exact .aliasDown named

/-- The options in the block of an interface are options of the interface. -/
lemma of_mem {postupAlias : Bool} {stanza : Stanza}
    (inBlock : stanza ∈ interfaceStanzas postupAlias interface) (mem : setting ∈ stanza.settings) :
    OfInterface interface setting := by
  cases subnets : interface.subnets with
  | nil =>
    rw [interfaceStanzas, subnets] at inBlock
    cases List.mem_singleton.1 inBlock
    exact of_mem_interfaceSettings mem
  | cons first rest =>
    obtain ⟨place, subnet, there, rfl⟩ := (mem_interfaceStanzas_iff subnets).1 inBlock
    rw [subnetStanza, List.mem_append, List.mem_append] at mem
    rcases mem with (mem | mem) | mem
    · exact .subnet (List.mem_of_getElem? there) (.of_mem mem)
    · exact of_mem_mtuSettings mem
    · split at mem
      · rcases List.mem_append.1 mem with mem | mem
        · exact of_mem_interfaceSettings mem
        · split at mem
          · exact of_mem_allAliasSettings mem
          · cases mem
      · cases mem

end OfInterface

/-- The options in the stanzas of a state are options of the state. -/
lemma OfState.of_mem {postupAlias : Bool} {state : State} {stanza : Stanza}
    (written : stanza ∈ stanzas postupAlias state) (mem : setting ∈ stanza.settings) :
    OfState state setting := by
  rcases List.mem_cons.1 written with rfl | written
  · rcases List.mem_append.1 mem with mem | mem
    · exact .dns (.of_mem mem)
    · obtain ⟨route, inside, mem⟩ := List.mem_flatMap.1 mem
      exact .route inside (.of_mem mem)
  · obtain ⟨interface, inside, inBlock⟩ := List.mem_flatMap.1 written
    exact .interface ((inOrder_perm _).mem_iff.1 inside) (.of_mem inBlock mem)

end TargetNet.Interfaces
