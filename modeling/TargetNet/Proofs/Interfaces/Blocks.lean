import Mathlib.Data.List.Forall2
import Mathlib.Data.List.Nodup
import Mathlib.Data.List.Pairwise
import Mathlib.Tactic.Common
import TargetNet.Proofs.Interfaces.Leaves
import TargetNet.Proofs.Interfaces.Order
import TargetNet.Proofs.Network.Params
import TargetNet.UdevRules

/-!
# Everything is written once

The stanzas of a state are one for the loopback interface and one block for every interface. A block
has a stanza for every subnet, and one in any case; `IsStanzaOf` says what the stanza at a place of
its block says. What concerns the interface as a whole stands in the first stanza alone. The file is
the stanzas as they are laid out (`laidOut`). The naming rules are one for every physical interface
with an address, a line each (`IsRuleOf`).
-/

namespace TargetNet.Interfaces

open Network (State Interface InterfaceKind Subnet SubnetKind Params Control)
open Yaml (Value)

/-! ## What is written -/

/-- Options, those without a value left out. -/
def given (options : List (String × Option String)) : List Setting :=
  options.filterMap fun option => option.2.map fun value => ⟨option.1, value⟩

/-- A list as the value of an option. -/
def listed (texts : List String) : Option String :=
  if texts = [] then none else some (" ".intercalate texts)

/-- The options that a subnet asks for. -/
def askedBy (subnet : Subnet) : List Setting :=
  given [("address", subnet.address), ("netmask", subnet.netmask), ("gateway", subnet.gateway),
    ("dns-nameservers", listed subnet.nameservers), ("dns-search", listed subnet.search)]

/-- The word for the family of a subnet. A static subnet without a version in its kind is told by a
colon in its address. -/
def familyWord (subnet : Subnet) : String :=
  if subnet.kind = .dhcp6 ∨ subnet.kind = .static6 ∨
      subnet.kind = .static ∧ ':' ∈ (subnet.address.getD "").toList then "inet6"
  else "inet"

/-- The word for the method of a kind of subnet. -/
def methodWord : SubnetKind → String
  | .dhcp4 | .dhcp6 => "dhcp"
  | .static | .static6 => "static"
  | .manual => "manual"

/-- The commands that bring the aliases of an interface up and down together with it. -/
def aliasCommands (interface : Interface) : List Setting :=
  (List.range' 1 (interface.subnets.length - 1)).flatMap fun place =>
    [⟨"post-up", "ifup " ++ (interface.name ++ ":" ++ Decimal.text place)⟩,
      ⟨"pre-down", "ifdown " ++ (interface.name ++ ":" ++ Decimal.text place)⟩]

/-- Options are those parameters that have something to print, in the order of their names. -/
structure IsParamList (params : Params) (settings : List Setting) : Prop where
  sorted : settings.Pairwise fun a b => a.keyword < b.keyword
  exact : ∀ keyword value, ⟨keyword, value⟩ ∈ settings ↔
    ∃ param, params.get? keyword = some param ∧ leaves param ≠ [] ∧
      " ".intercalate (leaves param) = value

/-- Options are those that concern an interface as a whole: its address, unless it is physical, and
its parameters. -/
def IsInterfaceWide (interface : Interface) (settings : List Setting) : Prop :=
  ∃ params, IsParamList interface.params params ∧
    settings = given [("hwaddress",
      if interface.kind = .physical then none else interface.mac.map ("ether " ++ ·))] ++ params

/-- A stanza is the one at a place in the block of an interface. `whole` is what concerns the
interface as a whole. -/
structure IsStanzaOf (postupAlias : Bool) (interface : Interface) (whole : List Setting)
    (place : Nat) (stanza : Stanza) : Prop where
  name : stanza.name =
    if place = 0 then interface.name else interface.name ++ ":" ++ Decimal.text place
  family : stanza.family.word = (interface.subnets[place]?.map familyWord).getD "inet"
  method : stanza.method.word =
    (interface.subnets[place]?.map fun s => methodWord s.kind).getD "manual"
  settings : stanza.settings =
    (interface.subnets[place]?.map askedBy).getD [] ++
      (given [("mtu", if interface.subnets = [] then none
        else interface.mtu.map fun mtu => Decimal.text mtu.toNat)] ++
      if place = 0 then whole ++ if postupAlias then aliasCommands interface else [] else [])

/-- Stanzas are the block of an interface. -/
structure IsBlockOf (postupAlias : Bool) (interface : Interface) (block : List Stanza) : Prop where
  length : block.length = max 1 interface.subnets.length
  stanzas : ∃ whole, IsInterfaceWide interface whole ∧ ∀ place stanza,
    block[place]? = some stanza → IsStanzaOf postupAlias interface whole place stanza

/-- A stanza is that of the loopback interface: it has the resolver settings of a state, and adds and
deletes every route. -/
structure IsLoopbackOf (state : State) (stanza : Stanza) : Prop where
  name : stanza.name = "lo"
  family : stanza.family.word = "inet"
  method : stanza.method.word = "loopback"
  settings : stanza.settings =
    given [("dns-nameservers", listed state.dns.nameservers),
      ("dns-search", listed state.dns.search)] ++
      state.routes.flatMap fun route =>
        [⟨"post-up", "route add " ++ routeText route⟩, ⟨"pre-down", "route del " ++ routeText route⟩]

/-- The line that says when a name is brought up, if there is one. -/
def controlLines (name : String) : Option Control → List String
  | none => []
  | some .auto => ["auto " ++ name]
  | some .hotplug => ["allow-hotplug " ++ name]
  | some .manual => ["# control-manual " ++ name]

/-- A stanza as it is laid out: the line that says when its name is brought up, the line that names
it, and one line for every option. -/
def laidOut (stanza : Stanza) : String :=
  "\n".intercalate (controlLines stanza.name stanza.control ++
    ("iface " ++ stanza.name ++ " " ++ stanza.family.word ++ " " ++ stanza.method.word) ::
      stanza.settings.map fun setting => "    " ++ setting.keyword ++ " " ++ setting.value) ++ "\n"

/-- The kinds of interfaces in the order of output. -/
def kindsInOrder : List InterfaceKind :=
  [.physical, .bond, .bridge, .vlan]

/-- An interface is written before another one, or is as good: by kind, then by name. -/
def IsWrittenBefore (a b : Interface) : Prop :=
  kindsInOrder.idxOf a.kind < kindsInOrder.idxOf b.kind ∨ a.kind = b.kind ∧ a.name ≤ b.name

/-- A line is the naming rule of an interface with an address. -/
def IsRuleOf (interface : Interface) (line : String) : Prop :=
  ∃ mac, interface.mac = some mac ∧
    line = "SUBSYSTEM==\"net\", ACTION==\"add\", DRIVERS==\"?*\", ATTR\x7baddress\x7d==\"" ++
      Text.lower mac ++ "\", NAME=\"" ++ interface.name ++ "\"\n"

/-- The interfaces that have a naming rule. -/
def pinned (interfaces : List Interface) : List Interface :=
  interfaces.filter fun interface => interface.kind = .physical ∧ interface.mac.isSome

/-! ## Options -/

lemma textSetting_eq (keyword : String) (value? : Option String) :
    textSetting keyword value? = given [(keyword, value?)] := by
  cases value? <;> rfl

lemma listSetting_eq (keyword : String) (texts : List String) :
    listSetting keyword texts = given [(keyword, listed texts)] := by
  cases texts <;> rfl

lemma given_append (options more : List (String × Option String)) :
    given options ++ given more = given (options ++ more) :=
  List.filterMap_append.symm

/-- The options of resolver settings are the two lists. -/
lemma dnsSettings_eq (nameservers search : List String) :
    dnsSettings nameservers search =
      given [("dns-nameservers", listed nameservers), ("dns-search", listed search)] := by
  rw [dnsSettings, listSetting_eq, listSetting_eq, given_append]
  rfl

/-- The options of a subnet are those that it asks for. -/
lemma subnetSettings_eq (subnet : Subnet) : subnetSettings subnet = askedBy subnet := by
  rw [subnetSettings, textSetting_eq, textSetting_eq, textSetting_eq, dnsSettings_eq, given_append,
    given_append, given_append]
  rfl

/-- The family of a subnet is written as its word. -/
lemma word_familyOf (subnet : Subnet) : (familyOf subnet).word = familyWord subnet := by
  have colon : subnet.isIpv6 = true ↔ subnet.kind = .dhcp6 ∨ subnet.kind = .static6 ∨
      subnet.kind = .static ∧ ':' ∈ (subnet.address.getD "").toList := by
    rw [Subnet.isIpv6]
    cases subnet.kind <;> cases subnet.address <;> simp [Network.hasColon]
  rw [familyOf, familyWord, ← if_congr colon rfl rfl]
  split <;> rfl

lemma word_methodOf (kind : SubnetKind) : (methodOf kind).word = methodWord kind := by
  cases kind <;> rfl

/-- What is printed for a parameter are the leaves in it. -/
lemma paramText_eq_some_iff {param : Value} {value : String} :
    paramText param = some value ↔
      leaves param ≠ [] ∧ " ".intercalate (leaves param) = value := by
  rw [paramText_eq]
  split
  case isTrue empty => simp [empty]
  case isFalse some => simp [some, Text.spaced]

/-- The options of parameters are those that have a text. -/
lemma mem_paramSettings_iff {params : Params} {keyword value : String} :
    ⟨keyword, value⟩ ∈ params.entries.filterMap paramSetting? ↔
      ∃ param, params.get? keyword = some param ∧ paramText param = some value := by
  rw [List.mem_filterMap]
  constructor
  · rintro ⟨⟨name, param⟩, mem, shown⟩
    obtain ⟨text, printed, same⟩ := Option.map_eq_some_iff.1 shown
    cases same
    exact ⟨param, Params.mem_entries_iff.1 mem, printed⟩
  · rintro ⟨param, found, printed⟩
    refine ⟨(keyword, param), Params.mem_entries_iff.2 found, ?_⟩
    rw [paramSetting?, printed]
    rfl

/-- The options for parameters are those with something to print, in order. -/
lemma isParamList (params : Params) : IsParamList params (params.entries.filterMap paramSetting?) where
  sorted := by
    apply List.pairwise_filterMap.2
    apply params.sorted.imp
    rintro a b before s ofA t ofB
    obtain ⟨_, -, rfl⟩ := Option.map_eq_some_iff.1 ofA
    obtain ⟨_, -, rfl⟩ := Option.map_eq_some_iff.1 ofB
    exact before
  exact keyword value := by simp only [mem_paramSettings_iff, paramText_eq_some_iff]

/-- The options of an interface as a whole are its address and its parameters. -/
lemma isInterfaceWide (interface : Interface) :
    IsInterfaceWide interface (interfaceSettings interface) := by
  refine ⟨_, isParamList interface.params, ?_⟩
  rw [interfaceSettings, textSetting_eq]
  split <;> rfl

/-! ## Blocks -/

/-- There is one stanza for each subnet. -/
lemma length_subnetStanzas (postupAlias : Bool) (interface : Interface) (start : Nat)
    (subnets : List Subnet) :
    (subnetStanzas postupAlias interface start subnets).length = subnets.length := by
  induction subnets generalizing start with
  | nil => rfl
  | cons subnet rest ih => rw [subnetStanzas, List.length_cons, ih, List.length_cons]

/-- The stanzas are in the order of the subnets. -/
lemma getElem?_subnetStanzas (postupAlias : Bool) (interface : Interface) (start place : Nat)
    (subnets : List Subnet) :
    (subnetStanzas postupAlias interface start subnets)[place]? =
      subnets[place]?.map (subnetStanza postupAlias interface (start + place)) := by
  induction subnets generalizing start place with
  | nil => rfl
  | cons subnet rest ih =>
    rw [subnetStanzas]
    cases place with
    | zero => rfl
    | succ place =>
      rw [List.getElem?_cons_succ, List.getElem?_cons_succ, ih, Nat.add_assoc, Nat.add_comm 1]

/-- An interface without subnets has a block of one stanza. -/
lemma isBlockOf_bare {interface : Interface} (bare : interface.subnets = []) (postupAlias : Bool) :
    IsBlockOf postupAlias interface [bareStanza interface] where
  length := by
    rw [bare]
    rfl
  stanzas := by
    refine ⟨_, isInterfaceWide interface, ?_⟩
    intro place stanza found
    obtain ⟨rfl, rfl⟩ : place = 0 ∧ bareStanza interface = stanza := by
      simpa [List.getElem?_singleton] using found
    have aliases : aliasCommands interface = [] := by
      rw [aliasCommands, bare]
      rfl
    refine ⟨rfl, ?_, ?_, ?_⟩
    · rw [bare]
      rfl
    · rw [bare]
      rfl
    · rw [aliases, bare, ite_self, List.append_nil]
      rfl

/-- The stanzas of subnets are the block of their interface. -/
lemma isBlockOf_subnets {interface : Interface} (configured : interface.subnets ≠ [])
    (postupAlias : Bool) :
    IsBlockOf postupAlias interface (subnetStanzas postupAlias interface 0 interface.subnets) where
  length := by
    rw [length_subnetStanzas, Nat.max_eq_right]
    exact List.length_pos_iff.2 configured
  stanzas := by
    refine ⟨_, isInterfaceWide interface, ?_⟩
    intro place stanza found
    rw [getElem?_subnetStanzas, Nat.zero_add] at found
    obtain ⟨subnet, there, rfl⟩ := Option.map_eq_some_iff.1 found
    refine ⟨rfl, ?_, ?_, ?_⟩
    · rw [there]
      exact word_familyOf subnet
    · rw [there]
      exact word_methodOf subnet.kind
    · rw [there, if_neg configured, ← textSetting_eq, subnetStanza, subnetSettings_eq,
        List.append_assoc]
      rfl

/-- The stanzas of every interface are its block. -/
lemma isBlockOf_interfaceStanzas (postupAlias : Bool) (interface : Interface) :
    IsBlockOf postupAlias interface (interfaceStanzas postupAlias interface) := by
  unfold interfaceStanzas
  split
  · rename_i bare
    exact isBlockOf_bare bare postupAlias
  · rename_i configured
    exact isBlockOf_subnets configured postupAlias

/-- The first stanza is that of the loopback interface. -/
lemma isLoopbackOf (state : State) : IsLoopbackOf state (loopbackStanza state) := by
  refine ⟨rfl, rfl, rfl, ?_⟩
  rw [loopbackStanza, dnsSettings_eq]
  rfl

/-- A stanza is written as it is laid out. -/
lemma laidOut_eq (stanza : Stanza) : laidOut stanza = stanza.block := by
  obtain ⟨control, _, _, _, _⟩ := stanza
  cases control with
  | none => rfl
  | some control => cases control <;> rfl

/-- The rank of a kind is its place in the order of output. -/
lemma rank_eq (kind : InterfaceKind) : kind.rank = kindsInOrder.idxOf kind := by
  cases kind <;> rfl

/-- Interfaces are written by kind, then by name. -/
lemma isWrittenBefore_of_mem (state : State) :
    (inOrder state.interfaces).Pairwise IsWrittenBefore := by
  refine (inOrder_sorted state.interfaces).imp ?_
  intro a b before
  rw [rank_eq, rank_eq] at before
  exact before

/-! ## Naming rules -/

/-- The rule of an interface with an address. -/
def ruleOf (interface : Interface) : UdevRules.Rule :=
  ⟨interface.mac.getD "", interface.name⟩

/-- The line for a physical interface with an address is its naming rule. -/
lemma isRuleOf_of_mem_pinned {interfaces : List Interface} {interface : Interface}
    (mem : interface ∈ pinned interfaces) : IsRuleOf interface (ruleOf interface).line := by
  obtain ⟨-, known⟩ := of_decide_eq_true (List.mem_filter.1 mem).2
  obtain ⟨mac, known⟩ := Option.isSome_iff_exists.1 known
  refine ⟨mac, known, ?_⟩
  rw [ruleOf, known]
  rfl

/-- There is a rule for each of these interfaces and for no other. -/
lemma filterMap_rule? (interfaces : List Interface) :
    interfaces.filterMap UdevRules.rule? = (pinned interfaces).map ruleOf := by
  induction interfaces with
  | nil => rfl
  | cons interface rest ih =>
    by_cases physical : interface.kind = .physical <;> cases mac : interface.mac <;>
      simp_all [pinned, UdevRules.rule?, ruleOf]

/-- The rules of a state are those of its pinned interfaces in the order of their names. -/
lemma exists_rules (state : State) :
    ∃ ordered : List Interface, ordered.Perm (pinned state.interfaces) ∧
      ordered.Pairwise (fun a b => a.name ≤ b.name) ∧
      List.Forall₂ IsRuleOf ordered ((UdevRules.rules state).map UdevRules.Rule.line) := by
  have perm := List.mergeSort_perm (pinned state.interfaces) fun a b => decide (a.name ≤ b.name)
  have mapped : ((pinned state.interfaces).mergeSort fun a b => decide (a.name ≤ b.name)).map ruleOf =
      ((pinned state.interfaces).map ruleOf).mergeSort fun a b => decide (a.name ≤ b.name) := by
    apply List.map_mergeSort
    exact fun _ _ _ _ => rfl
  refine ⟨_, perm, pairwise_mergeSort_name Interface.name _, ?_⟩
  rw [UdevRules.rules, filterMap_rule?, ← mapped, List.map_map, List.forall₂_map_right_iff,
    List.forall₂_same]
  intro interface mem
  exact isRuleOf_of_mem_pinned (perm.mem_iff.1 mem)

/-- Everything in a state is written once. The file is made of the stanza of the loopback interface
and one block for every interface, in the order of their kinds and names, and the naming rules are one
line for every physical interface with an address, in the order of their names. -/
theorem everything_is_written_once (postupAlias : Bool) (state : State) :
    (∃ loopback ordered blocks, IsLoopbackOf state loopback ∧ ordered.Perm state.interfaces ∧
      ordered.Pairwise IsWrittenBefore ∧
      List.Forall₂ (IsBlockOf postupAlias) ordered blocks ∧
      stanzas postupAlias state = loopback :: blocks.flatten ∧
      render postupAlias state =
        "\n".intercalate ((loopback :: blocks.flatten).map laidOut) ++ "\n" ++
          "source /etc/network/interfaces.d/*.cfg" ++ "\n") ∧
    ∃ ordered lines, ordered.Perm (pinned state.interfaces) ∧
      (ordered.Pairwise fun a b => a.name ≤ b.name) ∧
      List.Forall₂ IsRuleOf ordered lines ∧
      UdevRules.render state = String.join lines := by
  refine ⟨?_, ?_⟩
  · have split : stanzas postupAlias state = loopbackStanza state ::
        ((inOrder state.interfaces).map (interfaceStanzas postupAlias)).flatten := by
      rw [stanzas, List.flatMap_def]
    refine ⟨_, _, (inOrder state.interfaces).map (interfaceStanzas postupAlias), isLoopbackOf state,
      inOrder_perm _, isWrittenBefore_of_mem state, ?_, split, ?_⟩
    · rw [List.forall₂_map_right_iff, List.forall₂_same]
      intro interface _
      exact isBlockOf_interfaceStanzas postupAlias interface
    · rw [← split, funext laidOut_eq]
      rfl
  · obtain ⟨ordered, perm, sorted, each⟩ := exists_rules state
    exact ⟨ordered, _, perm, sorted, each, rfl⟩

end TargetNet.Interfaces
