import Mathlib.Data.List.Basic
import Mathlib.Tactic.Common
import TargetNet.Proofs.Interfaces.Options
import TargetNet.Proofs.Text.OneLine

/-!
# Texts of a state

`stateTexts` are the texts of a state that are written as they are, other than the names of interfaces.
If each of them is on one line, and each name is one word, then every option is on one line
(`OfState.isOneLine`).
-/

namespace TargetNet.Interfaces

open Network (State Interface Subnet Route)
open Text (IsWord OnOneLine)

mutual

/-- The texts in the value of a parameter. -/
def valueTexts : Yaml.Value → List String
  | .string s => [s]
  | .sequence items => itemTexts items
  | .null | .bool _ | .int _ | .float _ | .mapping _ | .tagged _ _ => []

/-- The texts in the values of several parameters. -/
def itemTexts : List Yaml.Value → List String
  | [] => []
  | item :: rest => valueTexts item ++ itemTexts rest

end

/-- The texts of a subnet. -/
def subnetTexts (subnet : Subnet) : List String :=
  subnet.address.toList ++ subnet.netmask.toList ++ subnet.gateway.toList ++
    (subnet.nameservers ++ subnet.search)

/-- The texts of a route. -/
def routeTexts (route : Route) : List String :=
  route.network :: (route.netmask.toList ++ [route.gateway])

/-- The texts of an interface, other than its name. -/
def interfaceTexts (interface : Interface) : List String :=
  interface.mac.toList ++
    interface.params.entries.flatMap (fun param => param.1 :: valueTexts param.2) ++
    interface.subnets.flatMap subnetTexts

/-- The texts of a state, other than the names of interfaces. -/
def stateTexts (state : State) : List String :=
  state.dns.nameservers ++ state.dns.search ++ state.routes.flatMap routeTexts ++
    state.interfaces.flatMap interfaceTexts

mutual

/-- A value whose texts are on one line is printed on one line. -/
theorem onOneLine_paramText (value : Yaml.Value) {text : String}
    (printed : paramText value = some text) (each : ∀ s ∈ valueTexts value, OnOneLine s) :
    OnOneLine text := by
  cases value with
  | string s =>
    cases printed
    exact each _ List.mem_cons_self
  | int n =>
    cases printed
    exact Decimal.onOneLine_intText n
  | float x =>
    cases printed
    exact Yaml.Value.onOneLine_floatText x
  | bool b =>
    cases b with
    | true => cases printed; decide
    | false => cases printed; decide
  | sequence items =>
    rw [paramText] at printed
    split at printed
    · cases printed
    · cases printed
      exact Text.onOneLine_spaced (onOneLine_paramTexts items each)
  | null => cases printed
  | mapping entries => cases printed
  | tagged tag value => cases printed

/-- Values whose texts are on one line are printed on one line each. -/
theorem onOneLine_paramTexts (items : List Yaml.Value) (each : ∀ s ∈ itemTexts items, OnOneLine s) :
    ∀ text ∈ paramTexts items, OnOneLine text := by
  cases items with
  | nil => exact List.forall_mem_nil _
  | cons item rest =>
    obtain ⟨first, others⟩ := List.forall_mem_append.1 each
    have later := onOneLine_paramTexts rest others
    rw [paramTexts]
    split
    · rename_i text printed
      exact List.forall_mem_cons.2 ⟨onOneLine_paramText item printed first, later⟩
    · exact later

end

/-! ## Options on one line -/

/-- An option has no line feed in it. -/
structure Setting.IsOneLine (setting : Setting) : Prop where
  keyword : OnOneLine setting.keyword
  value : OnOneLine setting.value

/-- An option is on one line if its keyword and value are. -/
lemma Setting.isOneLine {keyword value : String} (alone : OnOneLine keyword)
    (valued : OnOneLine value) : (Setting.mk keyword value).IsOneLine :=
  ⟨alone, valued⟩

variable {setting : Setting}

/-- The options of resolver settings are on one line each if their texts are. -/
lemma OfDns.isOneLine {nameservers search : List String} (option : OfDns nameservers search setting)
    (each : ∀ s ∈ nameservers ++ search, OnOneLine s) : setting.IsOneLine := by
  obtain ⟨nameservers, search⟩ := List.forall_mem_append.1 each
  cases option with
  | nameservers => exact Setting.isOneLine (by decide) (Text.onOneLine_spaced nameservers)
  | search => exact Setting.isOneLine (by decide) (Text.onOneLine_spaced search)

/-- The destination of a route is on one line if its texts are. -/
lemma onOneLine_routeTarget {route : Route} (network : OnOneLine route.network)
    (netmask : ∀ s ∈ route.netmask.toList, OnOneLine s) : OnOneLine (routeTarget route) := by
  rw [routeTarget]
  split
  · decide
  · decide
  · exact Text.onOneLine_append.2 ⟨by decide, network⟩
  · split
    · rename_i masked
      rw [Text.onOneLine_append, Text.onOneLine_append, Text.onOneLine_append]
      exact ⟨⟨⟨by decide, network⟩, by decide⟩, netmask _ (by simp [masked])⟩
    · exact Text.onOneLine_append.2 ⟨by decide, network⟩

/-- What is written for a route is on one line if its texts are. -/
lemma onOneLine_routeText {route : Route} (each : ∀ s ∈ routeTexts route, OnOneLine s) :
    OnOneLine (routeText route) := by
  obtain ⟨network, each⟩ := List.forall_mem_cons.1 each
  obtain ⟨netmask, gateway⟩ := List.forall_mem_append.1 each
  rw [routeText, Text.onOneLine_append, Text.onOneLine_append, Text.onOneLine_append]
  refine ⟨⟨⟨onOneLine_routeTarget network netmask, by decide⟩,
    gateway _ (List.mem_singleton_self _)⟩, ?_⟩
  split
  · exact Text.onOneLine_append.2 ⟨by decide, Decimal.onOneLine_text _⟩
  · decide

/-- The options of a route are on one line each if its texts are. -/
lemma OfRoute.isOneLine {route : Route} (option : OfRoute route setting)
    (each : ∀ s ∈ routeTexts route, OnOneLine s) : setting.IsOneLine := by
  have single := onOneLine_routeText each
  cases option with
  | added => exact Setting.isOneLine (by decide) (Text.onOneLine_append.2 ⟨by decide, single⟩)
  | deleted => exact Setting.isOneLine (by decide) (Text.onOneLine_append.2 ⟨by decide, single⟩)

/-- The options of a subnet are on one line each if its texts are. -/
lemma OfSubnet.isOneLine {subnet : Subnet} (option : OfSubnet subnet setting)
    (each : ∀ s ∈ subnetTexts subnet, OnOneLine s) : setting.IsOneLine := by
  rw [subnetTexts, List.forall_mem_append, List.forall_mem_append, List.forall_mem_append] at each
  obtain ⟨⟨⟨address, netmask⟩, gateway⟩, dns⟩ := each
  cases option with
  | address given => exact Setting.isOneLine (by decide) (address _ (Option.mem_toList.2 given))
  | netmask given => exact Setting.isOneLine (by decide) (netmask _ (Option.mem_toList.2 given))
  | gateway given => exact Setting.isOneLine (by decide) (gateway _ (Option.mem_toList.2 given))
  | dns option => exact option.isOneLine dns

/-- The alias of a word is a word: only a colon and digits are put behind it. -/
lemma isWord_of_mem_aliasNames {interface : Interface} (word : IsWord interface.name.toList)
    {name : String} (mem : name ∈ aliasNames interface) : IsWord name.toList := by
  obtain ⟨index, -, -, rfl⟩ := mem_aliasNames_iff.1 mem
  rw [toList_aliasName]
  apply word.append
  rw [List.forall_mem_cons]
  exact ⟨by decide, fun c digit =>
    Decimal.isBlank_of_isDigit (Decimal.isDigit_of_mem_ofNat index c digit)⟩

/-- The options of an interface are on one line each if its texts are and its name is a word. -/
lemma OfInterface.isOneLine {interface : Interface} (option : OfInterface interface setting)
    (word : IsWord interface.name.toList) (each : ∀ s ∈ interfaceTexts interface, OnOneLine s) :
    setting.IsOneLine := by
  rw [interfaceTexts, List.forall_mem_append, List.forall_mem_append] at each
  obtain ⟨⟨mac, params⟩, subnets⟩ := each
  cases option with
  | subnet inside option =>
    exact option.isOneLine fun s mem => subnets s (List.mem_flatMap.2 ⟨_, inside, mem⟩)
  | mtu => exact Setting.isOneLine (by decide) (Decimal.onOneLine_text _)
  | mac _ given =>
    have single := mac _ (Option.mem_toList.2 given)
    exact Setting.isOneLine (by decide) (Text.onOneLine_append.2 ⟨by decide, single⟩)
  | param inside printed =>
    have texts := fun s mem => params s (List.mem_flatMap.2 ⟨_, inside, mem⟩)
    obtain ⟨keyword, value⟩ := List.forall_mem_cons.1 texts
    exact Setting.isOneLine keyword (onOneLine_paramText _ printed value)
  | aliasUp mem =>
    have single := (isWord_of_mem_aliasNames word mem).onOneLine
    exact Setting.isOneLine (by decide) (Text.onOneLine_append.2 ⟨by decide, single⟩)
  | aliasDown mem =>
    have single := (isWord_of_mem_aliasNames word mem).onOneLine
    exact Setting.isOneLine (by decide) (Text.onOneLine_append.2 ⟨by decide, single⟩)

/-- Texts on one line, and names of one word, give options on one line. -/
lemma OfState.isOneLine {state : State} (option : OfState state setting)
    (words : ∀ interface ∈ state.interfaces, IsWord interface.name.toList)
    (each : ∀ s ∈ stateTexts state, OnOneLine s) : setting.IsOneLine := by
  rw [stateTexts, List.forall_mem_append, List.forall_mem_append] at each
  obtain ⟨⟨dns, routes⟩, interfaces⟩ := each
  cases option with
  | dns option => exact option.isOneLine dns
  | route inside option =>
    exact option.isOneLine fun s mem => routes s (List.mem_flatMap.2 ⟨_, inside, mem⟩)
  | interface inside option =>
    exact option.isOneLine (words _ inside) fun s mem =>
      interfaces s (List.mem_flatMap.2 ⟨_, inside, mem⟩)

end TargetNet.Interfaces
