import Mathlib.Tactic.Common
import TargetNet.Proofs.Interfaces.Options
import TargetNet.Proofs.Network.Translation

/-!
# Options without a value

An option that has nothing to say is left out where a list is empty or a text is missing, but not where
a text is empty. So an option is written without a value exactly where an empty text is given
(`values_iff`). A config gives one by itself: the members of a bond and the ports of a bridge are put
into one text, which is empty if there are none (`options_have_values_iff`).
-/

namespace TargetNet

namespace Text

/-- Texts with spaces between them are empty if there is none, or nothing but an empty one. -/
lemma spaced_eq_empty_iff {texts : List String} : spaced texts = "" ↔ texts = [] ∨ texts = [""] := by
  cases texts with
  | nil => exact iff_of_true rfl (.inl rfl)
  | cons text rest =>
    cases rest with
    | nil => simp [spaced, String.intercalate_singleton]
    | cons next rest => simp [spaced, String.intercalate_cons_cons, String.append_eq_empty_iff]

end Text

namespace Decimal

lemma text_ne_empty (n : Nat) : text n ≠ "" :=
  mt String.ofList_eq_empty_iff.1 (ofNat_ne_nil n)

/-- The text of an integer is not empty. -/
lemma intText_ne_empty (n : Int) : intText n ≠ "" := by
  refine mt String.ofList_eq_empty_iff.1 ?_
  rw [ofInt]
  split
  · exact List.cons_ne_nil _ _
  · exact ofNat_ne_nil _

end Decimal

namespace Interfaces

open Network (State Interface Subnet Route ConfigEntry Device InterfaceKind lastBond?)

/-! ## Empty texts in a state -/

/-- A subnet gives an empty text for an option. -/
inductive EmptyInSubnet (subnet : Subnet) : Prop
  | address : subnet.address = some "" → EmptyInSubnet subnet
  | netmask : subnet.netmask = some "" → EmptyInSubnet subnet
  | gateway : subnet.gateway = some "" → EmptyInSubnet subnet
  | nameservers : subnet.nameservers = [""] → EmptyInSubnet subnet
  | search : subnet.search = [""] → EmptyInSubnet subnet

/-- An interface gives an empty text for an option. -/
inductive EmptyInInterface (interface : Interface) : Prop
  | subnet {subnet : Subnet} : subnet ∈ interface.subnets → EmptyInSubnet subnet →
    EmptyInInterface interface
  | param {name : String} {value : Yaml.Value} : interface.params.get? name = some value →
    paramText value = some "" → EmptyInInterface interface

/-- A state gives an empty text for an option. -/
inductive EmptyInState (state : State) : Prop
  | nameservers : state.dns.nameservers = [""] → EmptyInState state
  | search : state.dns.search = [""] → EmptyInState state
  | interface {interface : Interface} : interface ∈ state.interfaces →
    EmptyInInterface interface → EmptyInState state

section

variable {setting : Setting} {nameservers search : List String} {subnet : Subnet}
  {interface : Interface} {state : State}

/-- An empty option of resolver settings comes from a list of one empty text. -/
lemma OfDns.empty (option : OfDns nameservers search setting) (empty : setting.value = "") :
    nameservers = [""] ∨ search = [""] := by
  cases option with
  | nameservers some => exact .inl ((Text.spaced_eq_empty_iff.1 empty).resolve_left some)
  | search some => exact .inr ((Text.spaced_eq_empty_iff.1 empty).resolve_left some)

/-- An empty option of a subnet comes from an empty text in it. -/
lemma OfSubnet.empty (option : OfSubnet subnet setting) (empty : setting.value = "") :
    EmptyInSubnet subnet := by
  cases option with
  | address given => exact .address (empty ▸ given)
  | netmask given => exact .netmask (empty ▸ given)
  | gateway given => exact .gateway (empty ▸ given)
  | dns option => exact (option.empty empty).elim .nameservers .search

/-- The options that are put together from several texts have a value. -/
lemma OfInterface.empty (option : OfInterface interface setting) (empty : setting.value = "") :
    EmptyInInterface interface := by
  cases option with
  | subnet inside option => exact .subnet inside (option.empty empty)
  | mtu given => exact absurd empty (Decimal.text_ne_empty _)
  | mac other given => simp at empty
  | param inside printed =>
    exact .param (Network.Params.mem_entries_iff.1 inside) (empty ▸ printed)
  | aliasUp named => simp at empty
  | aliasDown named => simp at empty

/-- An empty option of a state comes from an empty text in it. -/
lemma OfState.empty (option : OfState state setting) (empty : setting.value = "") :
    EmptyInState state := by
  cases option with
  | dns option => exact (option.empty empty).elim .nameservers .search
  | route inside option => cases option <;> simp at empty
  | interface inside option => exact .interface inside (option.empty empty)

/-! ## Where an empty text is written -/

/-- A list of one empty text gives an empty option. -/
lemma exists_empty_of_dns (given : nameservers = [""] ∨ search = [""]) :
    ∃ setting ∈ dnsSettings nameservers search, setting.value = "" := by
  rcases given with rfl | rfl
  · exact ⟨⟨"dns-nameservers", ""⟩, List.mem_append_left _ List.mem_cons_self, rfl⟩
  · exact ⟨⟨"dns-search", ""⟩, List.mem_append_right _ List.mem_cons_self, rfl⟩

/-- An empty text in a subnet gives an empty option. -/
lemma exists_empty_of_subnet (empty : EmptyInSubnet subnet) :
    ∃ setting ∈ subnetSettings subnet, setting.value = "" := by
  have text (keyword : String) {value? : Option String} (given : value? = some "") :
      ⟨keyword, ""⟩ ∈ textSetting keyword value? :=
    mem_textSetting_iff.2 ⟨"", given, rfl⟩
  have dns (given : subnet.nameservers = [""] ∨ subnet.search = [""]) :
      ∃ setting ∈ subnetSettings subnet, setting.value = "" := by
    obtain ⟨setting, mem, empty⟩ := exists_empty_of_dns given
    exact ⟨setting, List.mem_append_right _ mem, empty⟩
  cases empty with
  | address given =>
    refine ⟨⟨"address", ""⟩, ?_, rfl⟩
    simp [subnetSettings, text "address" given]
  | netmask given =>
    refine ⟨⟨"netmask", ""⟩, ?_, rfl⟩
    simp [subnetSettings, text "netmask" given]
  | gateway given =>
    refine ⟨⟨"gateway", ""⟩, ?_, rfl⟩
    simp [subnetSettings, text "gateway" given]
  | nameservers given => exact dns (.inl given)
  | search given => exact dns (.inr given)

/-- The options of a subnet stand in its stanza. -/
lemma exists_stanza_of_subnet (inside : subnet ∈ interface.subnets) (postupAlias : Bool) :
    ∃ stanza ∈ interfaceStanzas postupAlias interface, subnetSettings subnet ⊆ stanza.settings := by
  obtain ⟨place, there⟩ := List.mem_iff_getElem?.1 inside
  cases subnets : interface.subnets with
  | nil =>
    rw [subnets] at inside
    cases inside
  | cons first rest =>
    refine ⟨_, (mem_interfaceStanzas_iff subnets).2 ⟨place, subnet, there, rfl⟩, ?_⟩
    intro setting mem
    exact List.mem_append_left _ (List.mem_append_left _ mem)

/-- What concerns an interface as a whole stands in its first stanza. -/
lemma exists_stanza_of_interface (interface : Interface) (postupAlias : Bool) :
    ∃ stanza ∈ interfaceStanzas postupAlias interface,
      interfaceSettings interface ⊆ stanza.settings := by
  cases subnets : interface.subnets with
  | nil =>
    rw [interfaceStanzas, subnets]
    exact ⟨bareStanza interface, List.mem_cons_self, List.Subset.refl _⟩
  | cons first rest =>
    have there : interface.subnets[0]? = some first := by rw [subnets]; rfl
    refine ⟨_, (mem_interfaceStanzas_iff subnets).2 ⟨0, first, there, rfl⟩, ?_⟩
    intro setting mem
    exact List.mem_append_right _ (List.mem_append_left _ mem)

/-- An empty text in an interface gives an empty option of one of its stanzas. -/
lemma exists_empty_of_interface (empty : EmptyInInterface interface) (postupAlias : Bool) :
    ∃ stanza ∈ interfaceStanzas postupAlias interface, ∃ setting ∈ stanza.settings,
      setting.value = "" := by
  cases empty with
  | subnet inside empty =>
    obtain ⟨setting, mem, empty⟩ := exists_empty_of_subnet empty
    obtain ⟨stanza, inBlock, holds⟩ := exists_stanza_of_subnet inside postupAlias
    exact ⟨stanza, inBlock, setting, holds mem, empty⟩
  | @param name value given printed =>
    have shown : ⟨name, ""⟩ ∈ interface.params.entries.filterMap paramSetting? :=
      mem_paramSettings_iff.2 ⟨value, given, printed⟩
    obtain ⟨stanza, inBlock, holds⟩ := exists_stanza_of_interface interface postupAlias
    exact ⟨stanza, inBlock, ⟨name, ""⟩, holds (List.mem_append_right _ shown), rfl⟩

/-- An option is written without a value exactly if the state gives an empty text for one. -/
lemma values_iff (postupAlias : Bool) (state : State) :
    (∃ stanza ∈ stanzas postupAlias state, ∃ setting ∈ stanza.settings, setting.value = "") ↔
      EmptyInState state := by
  constructor
  · rintro ⟨stanza, written, setting, mem, empty⟩
    exact (OfState.of_mem written mem).empty empty
  · have loopback (given : state.dns.nameservers = [""] ∨ state.dns.search = [""]) :
        ∃ stanza ∈ stanzas postupAlias state, ∃ setting ∈ stanza.settings, setting.value = "" := by
      obtain ⟨setting, mem, empty⟩ := exists_empty_of_dns given
      exact ⟨loopbackStanza state, List.mem_cons_self, setting, List.mem_append_left _ mem, empty⟩
    intro empty
    cases empty with
    | nameservers given => exact loopback (.inl given)
    | search given => exact loopback (.inr given)
    | interface inside empty =>
      obtain ⟨stanza, inBlock, found⟩ := exists_empty_of_interface empty postupAlias
      refine ⟨stanza, List.mem_cons_of_mem _ (List.mem_flatMap.2 ⟨_, ?_, inBlock⟩), found⟩
      exact (inOrder_perm _).mem_iff.2 inside

end

/-! ## Empty texts in a config -/

/-- An entry of a config leads to an empty text: it lists nothing, or its device gives an empty text
and no parameter of the entry or of a bond takes the place of that. -/
inductive EmptyInEntry (entries : List ConfigEntry) : ConfigEntry → Prop
  | members {device : Device} : EmptyInEntry entries (.bond device [])
  | ports {device : Device} : EmptyInEntry entries (.bridge device [])
  | subnet {entry : ConfigEntry} {kind : InterfaceKind} {device : Device} {subnet : Subnet} :
    entry.device? = some (kind, device) → subnet ∈ device.subnets → EmptyInSubnet subnet →
    EmptyInEntry entries entry
  | param {entry : ConfigEntry} {kind : InterfaceKind} {device : Device} {name : String}
      {value : Yaml.Value} :
    entry.device? = some (kind, device) → device.params.get? name = some value →
    paramText value = some "" → name ∉ entry.ownParams.map (·.1) →
    (name = "bond-master" → lastBond? entries device.name = none) →
    EmptyInEntry entries entry

section

variable {entries : List ConfigEntry} {state : State}

/-- In accepted entries, no name is empty. -/
lemma name_ne_empty (accepted : State.ofEntries entries = .ok state) {name : String}
    (mem : name ∈ entries.filterMap (·.name?)) : name ≠ "" := by
  rw [← State.names_of_ofEntries accepted] at mem
  obtain ⟨interface, there, rfl⟩ := List.mem_map.1 mem
  intro empty
  have named := ((State.ofEntries_eq_ok_iff.1 accepted).2.2.interfaces interface there).named
  rw [empty] at named
  exact named (by decide)

/-- In accepted entries, no name of a device that is used is empty. -/
lemma uses_ne_empty (accepted : State.ofEntries entries = .ok state) {entry : ConfigEntry}
    (mem : entry ∈ entries) {name : String} (used : name ∈ entry.uses) : name ≠ "" := by
  obtain ⟨place, -, -, isUsed, -⟩ := State.places_of_uses accepted ⟨entry, mem, rfl, used⟩
  obtain ⟨interface, there, rfl⟩ := State.exists_of_nameAt? ((isUsed place).2 rfl)
  refine name_ne_empty accepted ?_
  rw [← State.names_of_ofEntries accepted]
  exact List.mem_map_of_mem there

/-- The parameters that an entry sets itself have a text, unless it lists nothing. -/
lemma emptyInEntry_of_ownParams (accepted : State.ofEntries entries = .ok state)
    {entry : ConfigEntry} (mem : entry ∈ entries) {param : String × Yaml.Value}
    (own : param ∈ entry.ownParams) (printed : paramText param.2 = some "") :
    EmptyInEntry entries entry := by
  have listed {names : List String} (used : names ⊆ entry.uses)
      (printed : some (Text.spaced names) = some "") : names = [] := by
    refine (Text.spaced_eq_empty_iff.1 (Option.some.inj printed)).resolve_right ?_
    rintro rfl
    exact uses_ne_empty accepted mem (used List.mem_cons_self) rfl
  cases entry with
  | bond device members =>
    cases List.mem_singleton.1 own
    cases listed (List.Subset.refl _) printed
    exact .members
  | bridge device ports =>
    cases List.mem_singleton.1 own
    cases listed (List.Subset.refl _) printed
    exact .ports
  | vlan device link id =>
    exfalso
    rcases List.mem_pair.1 own with rfl | rfl
    · exact uses_ne_empty accepted mem List.mem_cons_self (Option.some.inj printed)
    · exact Decimal.intText_ne_empty _ (Option.some.inj printed)
  | physical device => cases own
  | nameserver addresses search => cases own
  | route added => cases own

/-- An interface gives an empty text only where an entry does. -/
lemma exists_entry_of_empty (accepted : State.ofEntries entries = .ok state) {interface : Interface}
    (there : interface ∈ state.interfaces) (empty : EmptyInInterface interface) :
    ∃ entry ∈ entries, EmptyInEntry entries entry := by
  obtain ⟨entry, mem, device, isOf⟩ := (State.translates_of_ofEntries accepted).exists_entry there
  refine ⟨entry, mem, ?_⟩
  cases empty with
  | subnet inside empty => exact .subnet isOf.described (isOf.subnets ▸ inside) empty
  | @param name value given printed =>
    by_cases own : name ∈ entry.ownParams.map (·.1)
    · obtain ⟨param, isOwn, rfl⟩ := List.mem_map.1 own
      cases given.symm.trans (isOf.own param isOwn)
      exact emptyInEntry_of_ownParams accepted mem isOwn printed
    · by_cases free : name = "bond-master" → lastBond? entries interface.name = none
      · rw [isOf.others name own free] at given
        exact .param isOf.described given printed own (isOf.name ▸ free)
      · -- the parameter is the name of a bond
        exfalso
        obtain ⟨rfl, bonded⟩ := Classical.not_imp.1 free
        obtain ⟨bond, last⟩ := Option.ne_none_iff_exists'.1 bonded
        obtain ⟨other, mem', -, named⟩ := Network.exists_of_lastBond? last
        cases given.symm.trans (isOf.bond bond last)
        exact name_ne_empty accepted (List.mem_filterMap.2 ⟨other, mem', named⟩)
          (Option.some.inj printed)

/-- The interface of an entry gives an empty text where the entry does. -/
lemma exists_interface_of_empty (accepted : State.ofEntries entries = .ok state)
    {entry : ConfigEntry} (mem : entry ∈ entries) (empty : EmptyInEntry entries entry) :
    ∃ interface ∈ state.interfaces, EmptyInInterface interface := by
  have translates := State.translates_of_ofEntries accepted
  cases empty with
  | members =>
    obtain ⟨interface, there, isOf⟩ := translates.exists_interface mem rfl
    exact ⟨interface, there, .param (isOf.own _ List.mem_cons_self) rfl⟩
  | ports =>
    obtain ⟨interface, there, isOf⟩ := translates.exists_interface mem rfl
    exact ⟨interface, there, .param (isOf.own _ List.mem_cons_self) rfl⟩
  | subnet describes inside empty =>
    obtain ⟨interface, there, isOf⟩ := translates.exists_interface mem describes
    exact ⟨interface, there, .subnet (isOf.subnets ▸ inside) empty⟩
  | param describes given printed other free =>
    obtain ⟨interface, there, isOf⟩ := translates.exists_interface mem describes
    have same := isOf.others _ other (isOf.name ▸ free)
    exact ⟨interface, there, .param (same.trans given) printed⟩

end

/-- In what is written for an accepted config every option has a value, in either form of the aliases,
exactly if no entry leads to an empty text: no bond is without members and no bridge without ports, no
device gives an empty text that is kept, and the resolver settings are not one empty text. -/
theorem options_have_values_iff {entries : List ConfigEntry} {state : State}
    (accepted : State.ofEntries entries = .ok state) :
    (∀ text, Network.parseEntries text = .ok entries → State.parseConfig text = .ok state) ∧
    ∀ postupAlias,
      (∀ stanza ∈ stanzas postupAlias state, ∀ setting ∈ stanza.settings, setting.value ≠ "") ↔
        entries.flatMap (·.nameservers) ≠ [""] ∧ entries.flatMap (·.search) ≠ [""] ∧
          ∀ entry ∈ entries, ¬ EmptyInEntry entries entry := by
  refine ⟨fun text parsed => (State.parseConfig_of_parseEntries parsed).trans accepted, ?_⟩
  intro postupAlias
  have written := values_iff postupAlias state
  have translates := State.translates_of_ofEntries accepted
  rw [← translates.nameservers, ← translates.search]
  constructor
  · intro all
    have none : ¬ EmptyInState state := by
      rw [← written]
      rintro ⟨stanza, there, setting, mem, empty⟩
      exact all stanza there setting mem empty
    refine ⟨fun h => none (.nameservers h), fun h => none (.search h), fun entry mem empty => ?_⟩
    obtain ⟨interface, there, empty⟩ := exists_interface_of_empty accepted mem empty
    exact none (.interface there empty)
  · rintro ⟨nameservers, search, each⟩ stanza there setting mem empty
    cases written.1 ⟨stanza, there, setting, mem, empty⟩ with
    | nameservers h => exact nameservers h
    | search h => exact search h
    | interface inside empty =>
      obtain ⟨entry, mem, empty⟩ := exists_entry_of_empty accepted inside empty
      exact each entry mem empty

/-- A bond without members. -/
def emptyBond : List ConfigEntry :=
  [.physical { name := "eth0" }, .bond { name := "bond0" } []]

/-- The members of the bond are written without a value. -/
theorem options_have_values_iff_emptyBond :
    ∃ state, State.ofEntries emptyBond = .ok state ∧ ∀ postupAlias,
      ∃ stanza ∈ stanzas postupAlias state, ∃ setting ∈ stanza.settings, setting.value = "" := by
  refine ⟨_, rfl, fun postupAlias => ?_⟩
  by_contra none
  push Not at none
  have accepted : State.ofEntries emptyBond = .ok _ := rfl
  have each := (((options_have_values_iff accepted).2 postupAlias).1 none).2.2
  exact each (.bond { name := "bond0" } []) (List.mem_cons_of_mem _ List.mem_cons_self) .members

end Interfaces
end TargetNet
