import Mathlib.Data.List.Nodup
import Mathlib.Data.Set.Basic
import Mathlib.Tactic.Common
import TargetNet.Proofs.Interfaces.Blocks
import TargetNet.Proofs.Interfaces.Uses

/-!
# The two ways to bring up aliases

Aliases are brought up on their own, or with their interface, by commands in its first stanza. Both
ways give the same stanzas, up to the lines that bring aliases up (`alias_modes_agree`).

They do not always bring up the same aliases. On its own, an alias comes up as its subnet says; with
its interface, it comes up whenever the interface does. So the two ways agree exactly on those
interfaces whose subnets are all brought up by hand, or none of them (`aliases_come_up_alike_iff`).
-/

namespace TargetNet.Interfaces

open Network (State Interface Subnet)

/-! ## Blocks of an interface with subnets -/

/-- An interface with subnets has a stanza for each of them. -/
lemma interfaceStanzas_of_configured {interface : Interface} (configured : interface.subnets ≠ [])
    (postupAlias : Bool) :
    interfaceStanzas postupAlias interface =
      subnetStanzas postupAlias interface 0 interface.subnets := by
  unfold interfaceStanzas
  split
  · exact absurd ‹_› configured
  · rfl

/-- The stanza at a place is that of the subnet at this place. -/
lemma getElem?_interfaceStanzas {interface : Interface} (configured : interface.subnets ≠ [])
    (postupAlias : Bool) (place : Nat) :
    (interfaceStanzas postupAlias interface)[place]? =
      interface.subnets[place]?.map (subnetStanza postupAlias interface place) := by
  rw [interfaceStanzas_of_configured configured, getElem?_subnetStanzas, Nat.zero_add]

/-! ## What differs -/

/-- The lines that bring every alias of an interface up and down with it. -/
def aliasLines (interface : Interface) : List String :=
  (List.range' 1 (interface.subnets.length - 1)).flatMap fun index =>
    ["    post-up ifup " ++ interface.name ++ ":" ++ Decimal.text index,
      "    pre-down ifdown " ++ interface.name ++ ":" ++ Decimal.text index]

/-- How the block of an interface whose aliases come up with it (`bundled`) differs from the block
whose aliases come up on their own (`alone`). -/
structure TakesOver (interface : Interface) (alone bundled : List Stanza) : Prop where
  length : bundled.length = alone.length
  single : interface.subnets.length ≤ 1 → bundled = alone
  base : 2 ≤ interface.subnets.length → ∃ first first', alone[0]? = some first ∧
    bundled[0]? = some first' ∧ first.name = interface.name ∧ first'.name = interface.name ∧
    first'.lines = first.lines ++ aliasLines interface
  aliases : ∀ index, 0 < index → index < interface.subnets.length → ∃ stanza stanza' control,
    alone[index]? = some stanza ∧ bundled[index]? = some stanza' ∧
    stanza.name = interface.name ++ ":" ++ Decimal.text index ∧ stanza'.name = stanza.name ∧
    stanza.lines = controlLine control stanza.name :: stanza'.lines

/-- The options for all aliases are written as the lines that bring them up and down. -/
lemma map_line_allAliasSettings (interface : Interface) :
    (allAliasSettings interface).map Setting.line = aliasLines interface := by
  rw [allAliasSettings, aliasLines, List.map_flatMap]
  apply congrArg (List.flatMap · _)
  funext index
  simp [aliasSettings, Setting.line, indentation, aliasName, ← String.append_assoc]

/-- With the aliases, the first stanza has the lines that bring them up and down, and no others. -/
lemma lines_base (interface : Interface) (subnet : Subnet) :
    (subnetStanza true interface 0 subnet).lines =
      (subnetStanza false interface 0 subnet).lines ++ aliasLines interface := by
  rw [← map_line_allAliasSettings]
  simp [subnetStanza, Stanza.lines, Stanza.header]

/-- The stanza of an alias has one line less then: the one that says when it comes up. -/
lemma lines_of_ne_zero {index : Nat} (later : index ≠ 0) (interface : Interface)
    (subnet : Subnet) :
    (subnetStanza false interface index subnet).lines =
      controlLine subnet.control (stanzaName interface.name index) ::
        (subnetStanza true interface index subnet).lines := by
  simp [subnetStanza, Stanza.lines, Stanza.header, later]

/-- Without aliases, the two ways are the same. -/
lemma interfaceStanzas_of_single {interface : Interface}
    (single : interface.subnets.length ≤ 1) :
    interfaceStanzas true interface = interfaceStanzas false interface := by
  match subnets : interface.subnets with
  | [] => simp only [interfaceStanzas, subnets]
  | [subnet] =>
    have aliases : allAliasSettings interface = [] := by
      rw [allAliasSettings, subnets]
      rfl
    simp [interfaceStanzas, subnets, subnetStanzas, subnetStanza, aliases]
  | _ :: _ :: _ =>
    rw [subnets] at single
    exact absurd single (by simp)

/-- In every interface, the first stanza takes over from the aliases. -/
lemma takesOver (interface : Interface) :
    TakesOver interface (interfaceStanzas false interface) (interfaceStanzas true interface) where
  length := by
    rw [(isBlockOf_interfaceStanzas true interface).length,
      (isBlockOf_interfaceStanzas false interface).length]
  single := interfaceStanzas_of_single
  base two := by
    have there : 0 < interface.subnets.length := by omega
    have found (postupAlias : Bool) : (interfaceStanzas postupAlias interface)[0]? =
        some (subnetStanza postupAlias interface 0 interface.subnets[0]) := by
      rw [getElem?_interfaceStanzas (List.length_pos_iff.1 there), List.getElem?_eq_getElem there]
      rfl
    exact ⟨_, _, found false, found true, rfl, rfl, lines_base interface _⟩
  aliases index later there := by
    have found (postupAlias : Bool) : (interfaceStanzas postupAlias interface)[index]? =
        some (subnetStanza postupAlias interface index interface.subnets[index]) := by
      rw [getElem?_interfaceStanzas (List.length_pos_iff.1 (Nat.lt_of_le_of_lt (Nat.zero_le _) there)),
        List.getElem?_eq_getElem there]
      rfl
    have other : index ≠ 0 := by omega
    have named : stanzaName interface.name index =
        interface.name ++ ":" ++ Decimal.text index := if_neg other
    exact ⟨_, _, _, found false, found true, named, rfl, lines_of_ne_zero other interface _⟩

/-- Whichever way aliases are brought up, the stanzas are those of the same interfaces in the same
order. All that moves are the lines that bring aliases up. -/
theorem alias_modes_agree (state : State) :
    (stanzas true state).length = (stanzas false state).length ∧
    ∃ (loopback : Stanza) (ordered : List Interface), ordered.Perm state.interfaces ∧
      (∀ postupAlias, stanzas postupAlias state =
        loopback :: ordered.flatMap (interfaceStanzas postupAlias)) ∧
      ∀ interface,
        TakesOver interface (interfaceStanzas false interface) (interfaceStanzas true interface) := by
  refine ⟨?_, loopbackStanza state, inOrder state.interfaces, inOrder_perm _, fun _ => rfl,
    takesOver⟩
  rw [stanzas, stanzas, List.length_cons, List.length_cons, List.length_flatMap,
    List.length_flatMap]
  simp only [(takesOver _).length]

/-! ## What comes up -/

/-- The stanzas of the interface with a name. -/
def stanzasFor (postupAlias : Bool) (state : State) (name : String) : List Stanza :=
  ((ownedStanzas postupAlias state).filter fun owned => owned.1 == some name).map (·.2)

/-- A stanza has a line of its own that brings it up. -/
def Stanza.ComesUpAlone (stanza : Stanza) : Prop :=
  "auto " ++ stanza.name ∈ stanza.lines ∨ "allow-hotplug " ++ stanza.name ∈ stanza.lines

/-- What an interface asks of its first stanza. -/
def askedOfFirst (interface : Interface) : List Setting :=
  (interface.subnets.head?.map fun subnet => askedBy subnet ++ mtuSettings interface).getD [] ++
    interfaceSettings interface

/-- The first stanza of an interface has, after what the interface asks of it, the command that
brings up a name. -/
def BringsUp (interface : Interface) (first : Stanza) (name : String) : Prop :=
  ∃ added, first.settings = askedOfFirst interface ++ added ∧ ⟨"post-up", "ifup " ++ name⟩ ∈ added

/-- A stanza in the block of an interface is brought up without being asked for. -/
inductive ComesUp (interface : Interface) (block : List Stanza) : Stanza → Prop
  | alone {stanza : Stanza} : stanza ∈ block → stanza.ComesUpAlone → ComesUp interface block stanza
  | withFirst {first stanza : Stanza} : block.head? = some first → ComesUp interface block first →
    stanza ∈ block → BringsUp interface first stanza.name → ComesUp interface block stanza

/-- The names of an interface that are brought up without being asked for. -/
def comingUp (postupAlias : Bool) (state : State) (interface : Interface) : Set String :=
  {name | ∃ stanza, ComesUp interface (stanzasFor postupAlias state interface.name) stanza ∧
    stanza.name = name}

/-- Among the stanzas of several interfaces, those with the name of one are its own. -/
lemma filter_owned {interfaces : List Interface} (distinct : (interfaces.map (·.name)).Nodup)
    {interface : Interface} (mem : interface ∈ interfaces) (block : Interface → List Stanza) :
    ((interfaces.flatMap fun i => (block i).map fun stanza => (some i.name, stanza)).filter
      fun owned => owned.1 == some interface.name).map (·.2) = block interface := by
  induction interfaces with
  | nil => cases mem
  | cons i rest ih =>
    obtain ⟨new, distinct⟩ := List.nodup_cons.1 distinct
    rw [List.flatMap_cons, List.filter_append, List.map_append]
    rcases List.mem_cons.1 mem with rfl | mem
    · rw [List.filter_eq_self.2 (by simp), List.filter_eq_nil_iff.2]
      · simp
      · intro owned inside same
        obtain ⟨j, later, inside⟩ := List.mem_flatMap.1 inside
        obtain ⟨stanza, -, rfl⟩ := List.mem_map.1 inside
        exact new (List.mem_map.2 ⟨j, later, by simpa using same⟩)
    · have other : i.name ≠ interface.name := by
        intro same
        exact new (List.mem_map.2 ⟨interface, mem, same.symm⟩)
      rw [ih distinct mem]
      simp [other]

/-- The stanzas of an interface are found by its name. -/
lemma stanzasFor_eq {state : State} (distinct : (state.interfaces.map (·.name)).Nodup)
    {interface : Interface} (mem : interface ∈ state.interfaces) (postupAlias : Bool) :
    stanzasFor postupAlias state interface.name = interfaceStanzas postupAlias interface := by
  have ordered := ((inOrder_perm state.interfaces).map (·.name)).nodup_iff.2 distinct
  have inside := (inOrder_perm state.interfaces).mem_iff.2 mem
  exact filter_owned ordered inside _

/-! ### On its own -/

/-- Only the line that says when a stanza is brought up begins as such a line does. -/
lemma Stanza.mem_lines_iff {stanza : Stanza} {line : String} (begins : line.toList.head? = some 'a') :
    line ∈ stanza.lines ↔
      ∃ control, stanza.control = some control ∧ controlLine control stanza.name = line := by
  have header : line ≠ stanza.header := by
    rintro rfl
    simp [Stanza.header] at begins
  have settings : line ∉ stanza.settings.map Setting.line := by
    intro mem
    obtain ⟨setting, -, rfl⟩ := List.mem_map.1 mem
    simp [Setting.line, indentation] at begins
  rw [Stanza.lines, List.mem_append, List.mem_cons]
  simp [header, settings]

/-- The comment about a name that is left to hand is no line that begins with a word. -/
lemma controlLine_manual_ne {name line : String} (begins : line.toList.head? = some 'a') :
    controlLine .manual name ≠ line := by
  have mark : (controlLine .manual name).toList.head? = some '#' := by
    change ("# control-manual " ++ name).toList.head? = some '#'
    rw [String.toList_append]
    rfl
  rintro rfl
  exact absurd (mark.symm.trans begins) (by decide)

/-- A stanza comes up on its own unless it is left to hand or says nothing about it. -/
lemma Stanza.comesUpAlone_iff {stanza : Stanza} :
    stanza.ComesUpAlone ↔ ∃ control, stanza.control = some control ∧ control ≠ .manual := by
  have auto : ("auto " ++ stanza.name).toList.head? = some 'a' := by
    rw [String.toList_append]
    rfl
  have hotplug : ("allow-hotplug " ++ stanza.name).toList.head? = some 'a' := by
    rw [String.toList_append]
    rfl
  rw [ComesUpAlone, mem_lines_iff auto, mem_lines_iff hotplug]
  constructor
  · rintro (⟨control, own, line⟩ | ⟨control, own, line⟩)
    · exact ⟨control, own, fun manual => controlLine_manual_ne auto (manual ▸ line)⟩
    · exact ⟨control, own, fun manual => controlLine_manual_ne hotplug (manual ▸ line)⟩
  · rintro ⟨control, own, other⟩
    cases control with
    | auto => exact .inl ⟨.auto, own, rfl⟩
    | hotplug => exact .inr ⟨.hotplug, own, rfl⟩
    | manual => exact absurd rfl other

/-- An alias that comes up with the first stanza does not come up on its own. -/
lemma comesUpAlone_subnetStanza_iff {postupAlias : Bool} {interface : Interface} {place : Nat}
    {subnet : Subnet} :
    (subnetStanza postupAlias interface place subnet).ComesUpAlone ↔
      ¬ (postupAlias = true ∧ place ≠ 0) ∧ subnet.control ≠ .manual := by
  rw [Stanza.comesUpAlone_iff, subnetStanza]
  split
  · rename_i taken
    simp_all
  · rename_i kept
    simp_all

/-! ### With the interface -/

/-- The stanzas of an interface have different names. -/
lemma stanzaName_injective {name : String} {i j : Nat} (h : stanzaName name i = stanzaName name j) :
    i = j := by
  have alias_ne (k : Nat) : aliasName name k ≠ name := by
    intro same
    have lengths := congrArg String.length same
    have colon : ":".length = 1 := rfl
    rw [aliasName, String.length_append, String.length_append] at lengths
    omega
  unfold stanzaName at h
  split at h
  · split at h
    · omega
    · exact absurd h.symm (alias_ne j)
  · split at h
    · exact absurd h (alias_ne i)
    · rw [aliasName, aliasName, String.append_right_inj] at h
      exact Decimal.text_injective h

/-- The aliases are what is brought up by the options for them. -/
lemma mem_allAliasSettings_iff {interface : Interface} {name : String} :
    ⟨"post-up", "ifup " ++ name⟩ ∈ allAliasSettings interface ↔
      ∃ index, 1 ≤ index ∧ index < interface.subnets.length ∧
        name = stanzaName interface.name index := by
  rw [allAliasSettings, List.mem_flatMap]
  constructor
  · rintro ⟨index, inside, mem⟩
    rw [List.mem_range'_1] at inside
    have same : name = aliasName interface.name index := by
      simpa [aliasSettings, String.append_right_inj] using mem
    exact ⟨index, inside.1, by omega, same.trans (if_neg (by omega)).symm⟩
  · rintro ⟨index, later, there, rfl⟩
    refine ⟨index, List.mem_range'_1.2 (by omega), ?_⟩
    rw [stanzaName, if_neg (by omega), aliasSettings]
    exact List.mem_cons_self

/-- The first stanza brings up the aliases, and only if they are to come up with it. -/
lemma bringsUp_iff {postupAlias : Bool} {interface : Interface} {subnet : Subnet}
    {rest : List Subnet} (subnets : interface.subnets = subnet :: rest) {name : String} :
    BringsUp interface (subnetStanza postupAlias interface 0 subnet) name ↔
      postupAlias = true ∧ ∃ index, 1 ≤ index ∧ index < interface.subnets.length ∧
        name = stanzaName interface.name index := by
  have settings : (subnetStanza postupAlias interface 0 subnet).settings =
      askedOfFirst interface ++ if postupAlias then allAliasSettings interface else [] := by
    rw [askedOfFirst, subnets, subnetStanza, subnetSettings_eq]
    simp
  rw [BringsUp, settings, ← mem_allAliasSettings_iff]
  constructor
  · rintro ⟨added, same, mem⟩
    rw [← List.append_cancel_left same] at mem
    cases postupAlias with
    | false => cases mem
    | true => exact ⟨rfl, mem⟩
  · rintro ⟨rfl, mem⟩
    exact ⟨_, rfl, mem⟩

/-- A stanza comes up on its own, or together with the first one. -/
lemma comesUp_iff {interface : Interface} {block : List Stanza} {first stanza : Stanza}
    (isFirst : block.head? = some first) :
    ComesUp interface block stanza ↔ stanza ∈ block ∧
      (stanza.ComesUpAlone ∨ first.ComesUpAlone ∧ BringsUp interface first stanza.name) := by
  constructor
  · intro up
    induction up with
    | alone mem alone => exact ⟨mem, .inl alone⟩
    | withFirst isFirst' _ mem command ih =>
      cases isFirst.symm.trans isFirst'
      obtain ⟨-, alone | ⟨alone, -⟩⟩ := ih
      · exact ⟨mem, .inr ⟨alone, command⟩⟩
      · exact ⟨mem, .inr ⟨alone, command⟩⟩
  · rintro ⟨mem, alone | ⟨alone, command⟩⟩
    · exact .alone mem alone
    · exact .withFirst isFirst (.alone (List.mem_of_mem_head? isFirst) alone) mem command

/-! ### Both ways -/

section Ways

variable {interface : Interface} {first : Subnet} {rest : List Subnet}

/-- The first stanza is that of the first subnet. -/
lemma head?_interfaceStanzas (subnets : interface.subnets = first :: rest) (postupAlias : Bool) :
    (interfaceStanzas postupAlias interface).head? =
      some (subnetStanza postupAlias interface 0 first) := by
  rw [interfaceStanzas, subnets]
  rfl

/-- The stanzas are those of the subnets. -/
lemma mem_interfaceStanzas_iff (subnets : interface.subnets = first :: rest) {postupAlias : Bool}
    {stanza : Stanza} :
    stanza ∈ interfaceStanzas postupAlias interface ↔ ∃ place subnet,
      interface.subnets[place]? = some subnet ∧
        subnetStanza postupAlias interface place subnet = stanza := by
  have configured : interface.subnets ≠ [] := by
    rw [subnets]
    exact List.cons_ne_nil _ _
  simp only [List.mem_iff_getElem?, getElem?_interfaceStanzas configured, Option.map_eq_some_iff]

/-- With its interface, a subnet comes up as the first one asks, and on its own as it asks itself. -/
lemma comesUp_subnetStanza_iff (subnets : interface.subnets = first :: rest) {postupAlias : Bool}
    {place : Nat} {subnet : Subnet} (there : interface.subnets[place]? = some subnet) :
    ComesUp interface (interfaceStanzas postupAlias interface)
        (subnetStanza postupAlias interface place subnet) ↔
      (if postupAlias then first else subnet).control ≠ .manual := by
  have mem : subnetStanza postupAlias interface place subnet ∈
      interfaceStanzas postupAlias interface :=
    (mem_interfaceStanzas_iff subnets).2 ⟨place, subnet, there, rfl⟩
  rw [comesUp_iff (head?_interfaceStanzas subnets postupAlias), bringsUp_iff subnets,
    comesUpAlone_subnetStanza_iff, comesUpAlone_subnetStanza_iff]
  cases postupAlias with
  | false => simp [mem]
  | true =>
    cases place with
    | zero =>
      rw [subnets] at there
      cases there
      simpa [mem] using fun up _ _ _ _ => up
    | succ index =>
      have inside := (List.getElem?_eq_some_iff.1 there).1
      have named : ∃ i, 1 ≤ i ∧ i < interface.subnets.length ∧
          (subnetStanza true interface (index + 1) subnet).name = stanzaName interface.name i :=
        ⟨index + 1, Nat.le_add_left 1 index, inside, rfl⟩
      simp [mem, named]

/-- Which names come up is told by the subnets, or all by the first one if the aliases come up with
it. -/
lemma mem_comingUp_iff {state : State} (distinct : (state.interfaces.map (·.name)).Nodup)
    (mem : interface ∈ state.interfaces) (subnets : interface.subnets = first :: rest)
    {postupAlias : Bool} {name : String} :
    name ∈ comingUp postupAlias state interface ↔ ∃ place subnet,
      interface.subnets[place]? = some subnet ∧ stanzaName interface.name place = name ∧
        (if postupAlias then first else subnet).control ≠ .manual := by
  rw [comingUp, stanzasFor_eq distinct mem]
  constructor
  · rintro ⟨stanza, up, rfl⟩
    have inside := ((comesUp_iff (head?_interfaceStanzas subnets postupAlias)).1 up).1
    obtain ⟨place, subnet, there, rfl⟩ := (mem_interfaceStanzas_iff subnets).1 inside
    exact ⟨place, subnet, there, rfl, (comesUp_subnetStanza_iff subnets there).1 up⟩
  · rintro ⟨place, subnet, there, rfl, control⟩
    exact ⟨_, (comesUp_subnetStanza_iff subnets there).2 control, rfl⟩

/-- The name of one subnet comes up if its own control says so, or that of the first subnet. -/
lemma stanzaName_mem_comingUp_iff {state : State}
    (distinct : (state.interfaces.map (·.name)).Nodup) (mem : interface ∈ state.interfaces)
    (subnets : interface.subnets = first :: rest) {postupAlias : Bool} {place : Nat}
    {subnet : Subnet} (there : interface.subnets[place]? = some subnet) :
    stanzaName interface.name place ∈ comingUp postupAlias state interface ↔
      (if postupAlias then first else subnet).control ≠ .manual := by
  rw [mem_comingUp_iff distinct mem subnets]
  constructor
  · rintro ⟨place', subnet', there', same, control⟩
    cases stanzaName_injective same
    cases there.symm.trans there'
    exact control
  · intro control
    exact ⟨place, subnet, there, rfl, control⟩

/-- For an interface without subnets, the two ways bring up the same. -/
lemma comingUp_of_bare {state : State} (distinct : (state.interfaces.map (·.name)).Nodup)
    (mem : interface ∈ state.interfaces) (bare : interface.subnets = []) :
    comingUp true state interface = comingUp false state interface := by
  have same : interfaceStanzas true interface = interfaceStanzas false interface :=
    interfaceStanzas_of_single (by simp [bare])
  rw [comingUp, comingUp, stanzasFor_eq distinct mem, stanzasFor_eq distinct mem, same]

/-- What the two ways bring up is the same if each subnet is left to hand as the first one is. -/
lemma comingUp_alike_iff {state : State} (distinct : (state.interfaces.map (·.name)).Nodup)
    (mem : interface ∈ state.interfaces) (subnets : interface.subnets = first :: rest) :
    comingUp true state interface = comingUp false state interface ↔
      ∀ subnet ∈ interface.subnets, (subnet.control = .manual ↔ first.control = .manual) := by
  constructor
  · intro same subnet inside
    obtain ⟨place, there⟩ := List.mem_iff_getElem?.1 inside
    have alone : _ ∈ comingUp false state interface ↔ subnet.control ≠ .manual :=
      stanzaName_mem_comingUp_iff distinct mem subnets there
    have bundled : _ ∈ comingUp true state interface ↔ first.control ≠ .manual :=
      stanzaName_mem_comingUp_iff distinct mem subnets there
    rw [same] at bundled
    exact not_iff_not.1 (alone.symm.trans bundled)
  · intro asFirst
    ext name
    rw [mem_comingUp_iff distinct mem subnets, mem_comingUp_iff distinct mem subnets]
    apply exists_congr
    intro place
    apply exists_congr
    intro subnet
    apply and_congr_right
    intro there
    have inside : subnet ∈ interface.subnets := List.mem_iff_getElem?.2 ⟨place, there⟩
    exact and_congr_right fun _ => not_congr (asFirst subnet inside).symm

end Ways

/-- On its own, a subnet comes up unless it is left to hand itself. With its interface, it comes up
unless the first subnet is left to hand. So the two ways bring up the same exactly if all subnets of
the interface are left to hand, or none is. -/
theorem aliases_come_up_alike_iff {state : State} (valid : state.validate = .ok ())
    {interface : Interface} (mem : interface ∈ state.interfaces) :
    (∀ first place subnet, interface.subnets.head? = some first →
      interface.subnets[place]? = some subnet →
      (stanzaName interface.name place ∈ comingUp false state interface ↔
        subnet.control ≠ .manual) ∧
      (stanzaName interface.name place ∈ comingUp true state interface ↔
        first.control ≠ .manual)) ∧
    (comingUp true state interface = comingUp false state interface ↔
      ∀ subnet ∈ interface.subnets, ∀ other ∈ interface.subnets,
        (subnet.control = .manual ↔ other.control = .manual)) := by
  have distinct := (Network.State.validate_eq_ok_iff.1 valid).distinct
  cases subnets : interface.subnets with
  | nil =>
    refine ⟨?_, ?_⟩
    · intro _ _ _ isFirst
      cases isFirst
    · simp [comingUp_of_bare distinct mem subnets]
  | cons first rest =>
    rw [← subnets]
    refine ⟨?_, ?_⟩
    · intro first' place subnet isFirst there
      rw [subnets] at isFirst
      cases isFirst
      exact ⟨stanzaName_mem_comingUp_iff distinct mem subnets there,
        stanzaName_mem_comingUp_iff distinct mem subnets there⟩
    · rw [comingUp_alike_iff distinct mem subnets]
      constructor
      · intro asFirst subnet inside other inside'
        exact (asFirst subnet inside).trans (asFirst other inside').symm
      · intro agree subnet inside
        exact agree subnet inside first (subnets ▸ List.mem_cons_self)

/-- An interface with an alias that is left to hand. -/
def handAlias : Interface where
  name := "eth0"
  kind := .physical
  subnets := [{ kind := .dhcp4 }, { kind := .static, address := some "10.0.0.2", control := .manual }]

/-- The alias that is left to hand comes up with its interface all the same. -/
theorem aliases_come_up_alike_iff_handAlias :
    ({ interfaces := [handAlias] } : State).validate = .ok () ∧
      "eth0:1" ∉ comingUp false { interfaces := [handAlias] } handAlias ∧
      "eth0:1" ∈ comingUp true { interfaces := [handAlias] } handAlias ∧
      comingUp true { interfaces := [handAlias] } handAlias ≠
        comingUp false { interfaces := [handAlias] } handAlias := by
  have valid : ({ interfaces := [handAlias] } : State).validate = .ok () := by decide
  have named : stanzaName handAlias.name 1 = "eth0:1" := by decide +kernel
  obtain ⟨names, alike⟩ := aliases_come_up_alike_iff valid List.mem_cons_self
  obtain ⟨alone, bundled⟩ := names _ 1 _ rfl rfl
  rw [named] at alone bundled
  refine ⟨valid, fun up => alone.1 up rfl, bundled.2 (by decide), fun same => ?_⟩
  exact absurd (alike.1 same _ List.mem_cons_self _ (List.mem_cons_of_mem _ List.mem_cons_self))
    (by decide)

end TargetNet.Interfaces
