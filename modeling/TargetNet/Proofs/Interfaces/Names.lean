import Mathlib.Data.List.Lattice
import Mathlib.Data.List.Nodup
import Mathlib.Tactic.Common
import TargetNet.Proofs.Interfaces.Aliases

/-!
# Names of stanzas

Stanzas are for the loopback interface, for every interface under its own name, and for every further
subnet under the name of an alias (`stanzaNames`). The names of a valid state are distinct, and none
is that of the loopback interface, but nothing keeps an interface from having the name that an alias
of another one gets. This is the one way for a name to have two stanzas (`names_are_distinct_iff`):
two aliases never share a name, since the number after the last colon and the name before it can be
read off again.
-/

namespace TargetNet.Interfaces

open Network (State Interface Subnet)

/-- The names that the aliases of an interface get. -/
def aliasNames (interface : Interface) : List String :=
  (List.range' 1 (interface.subnets.length - 1)).map (aliasName interface.name)

/-- The names that a state asks stanzas for, in the order of output. -/
def stanzaNames (state : State) : List String :=
  "lo" :: (inOrder state.interfaces).flatMap fun interface =>
    interface.name :: aliasNames interface

/-! ## Names of aliases -/

/-- The aliases are counted from one up to the number of subnets. -/
lemma mem_aliasNames_iff {interface : Interface} {name : String} :
    name ∈ aliasNames interface ↔
      ∃ index, 1 ≤ index ∧ index < interface.subnets.length ∧ aliasName interface.name index = name := by
  rw [aliasNames, List.mem_map]
  constructor
  · rintro ⟨index, inside, named⟩
    rw [List.mem_range'_1] at inside
    exact ⟨index, inside.1, by omega, named⟩
  · rintro ⟨index, later, there, named⟩
    exact ⟨index, List.mem_range'_1.2 (by omega), named⟩

/-- What follows the last separator can be read off, and so can what stands before it. -/
lemma eq_of_append_cons {c : Char} {as bs ds es : List Char} (notMem : c ∉ ds) (notMem' : c ∉ es)
    (same : as ++ c :: ds = bs ++ c :: es) : as = bs ∧ ds = es := by
  -- were one of the beginnings longer, the separator after it would be among what follows the other
  rcases List.append_eq_append_iff.1 same with ⟨more, rfl, rest⟩ | ⟨more, rfl, rest⟩
  · cases more with
    | nil => exact ⟨(List.append_nil as).symm, (List.cons.inj rest).2⟩
    | cons d more =>
      rw [(List.cons.inj rest).2] at notMem
      exact absurd (List.mem_append_right more List.mem_cons_self) notMem
  · cases more with
    | nil => exact ⟨List.append_nil bs, (List.cons.inj rest).2.symm⟩
    | cons d more =>
      rw [(List.cons.inj rest).2] at notMem'
      exact absurd (List.mem_append_right more List.mem_cons_self) notMem'

lemma toList_aliasName (name : String) (index : Nat) :
    (aliasName name index).toList = name.toList ++ ':' :: Decimal.ofNat index := by
  simp [aliasName, Decimal.text]

/-- The name of an alias tells both the interface and the number. -/
lemma aliasName_injective {a b : String} {i j : Nat} (same : aliasName a i = aliasName b j) :
    a = b ∧ i = j := by
  have digits : ∀ n, ':' ∉ Decimal.ofNat n := Decimal.notMem_ofNat (by decide)
  have chars := congrArg String.toList same
  rw [toList_aliasName, toList_aliasName] at chars
  obtain ⟨names, numbers⟩ := eq_of_append_cons (digits i) (digits j) chars
  exact ⟨String.toList_inj.1 names, Decimal.text_injective (congrArg String.ofList numbers)⟩

/-- An interface does not have the name of an alias of its own. -/
lemma name_notMem_aliasNames (interface : Interface) :
    interface.name ∉ aliasNames interface := by
  rw [mem_aliasNames_iff]
  rintro ⟨index, later, -, named⟩
  have place : stanzaName interface.name index = stanzaName interface.name 0 := by
    rw [stanzaName, if_neg (by omega), named]
    rfl
  have := stanzaName_injective place
  omega

/-- No alias has the name of the loopback interface. -/
lemma lo_notMem_aliasNames (interface : Interface) : "lo" ∉ aliasNames interface := by
  rw [mem_aliasNames_iff]
  rintro ⟨index, -, -, named⟩
  have colon : ':' ∈ "lo".toList := by
    rw [← named, toList_aliasName]
    exact List.mem_append_right _ List.mem_cons_self
  exact absurd colon (by decide)

lemma nodup_aliasNames (interface : Interface) : (aliasNames interface).Nodup :=
  (List.nodup_range' 1).map fun _ _ same => (aliasName_injective same).2

/-- Interfaces with different names have no name of an alias in common. -/
lemma aliasNames_disjoint {a b : Interface} (apart : a.name ≠ b.name) :
    List.Disjoint (aliasNames a) (aliasNames b) := by
  intro name ofA ofB
  obtain ⟨i, -, -, named⟩ := mem_aliasNames_iff.1 ofA
  obtain ⟨j, -, -, named'⟩ := mem_aliasNames_iff.1 ofB
  exact apart (aliasName_injective (named.trans named'.symm)).1

/-! ## Names of blocks -/

/-- The stanzas of subnets are named by counting. -/
lemma map_name_subnetStanzas (postupAlias : Bool) (interface : Interface) (index : Nat)
    (subnets : List Subnet) :
    (subnetStanzas postupAlias interface index subnets).map (·.name) =
      (List.range' index subnets.length).map (stanzaName interface.name) := by
  induction subnets generalizing index with
  | nil => rfl
  | cons subnet rest ih =>
    rw [subnetStanzas, List.map_cons, ih, List.length_cons, List.range'_succ, List.map_cons]
    rfl

/-- The stanzas of an interface have its name and those of its aliases. -/
lemma map_name_interfaceStanzas (postupAlias : Bool) (interface : Interface) :
    (interfaceStanzas postupAlias interface).map (·.name) =
      interface.name :: aliasNames interface := by
  cases subnets : interface.subnets with
  | nil => simp [interfaceStanzas, aliasNames, subnets, bareStanza]
  | cons subnet rest =>
    have later : (List.range' 1 rest.length).map (stanzaName interface.name) =
        (List.range' 1 rest.length).map (aliasName interface.name) := by
      apply List.map_congr_left
      intro index inside
      have first := (List.mem_range'_1.1 inside).1
      exact if_neg (by omega)
    rw [interfaceStanzas_of_configured (by simp [subnets]), map_name_subnetStanzas, aliasNames,
      subnets, List.length_cons, List.range'_succ, List.map_cons, Nat.zero_add, later]
    rfl

/-- The names of all stanzas are those that the state asks for. -/
lemma map_name_stanzas (postupAlias : Bool) (state : State) :
    (stanzas postupAlias state).map (·.name) = stanzaNames state := by
  rw [stanzas, List.map_cons, List.map_flatMap, stanzaNames]
  simp only [map_name_interfaceStanzas]
  rfl

/-- Two blocks share a name exactly if one of the interfaces has the name of an alias of the other. -/
lemma disjoint_names_iff {a b : Interface} (apart : a.name ≠ b.name) :
    List.Disjoint (a.name :: aliasNames a) (b.name :: aliasNames b) ↔
      a.name ∉ aliasNames b ∧ b.name ∉ aliasNames a := by
  rw [List.disjoint_cons_left, List.disjoint_cons_right, List.mem_cons, not_or]
  constructor
  · rintro ⟨⟨-, first⟩, second, -⟩
    exact ⟨first, second⟩
  · rintro ⟨first, second⟩
    exact ⟨⟨apart, first⟩, second, aliasNames_disjoint apart⟩

/-! ## All names -/

/-- Names of interfaces and aliases are all different exactly if no interface has the name of an alias. -/
lemma nodup_blocks_iff {interfaces : List Interface} (distinct : (interfaces.map (·.name)).Nodup) :
    (interfaces.flatMap fun interface => interface.name :: aliasNames interface).Nodup ↔
      ∀ interface ∈ interfaces, ∀ other ∈ interfaces, interface.name ∉ aliasNames other := by
  have apart {a b : Interface} (memA : a ∈ interfaces) (memB : b ∈ interfaces) (ne : a ≠ b) :
      a.name ≠ b.name := fun same => ne (List.inj_on_of_nodup_map distinct memA memB same)
  have each : ∀ interface ∈ interfaces, (interface.name :: aliasNames interface).Nodup :=
    fun interface _ => List.nodup_cons.2 ⟨name_notMem_aliasNames interface, nodup_aliasNames interface⟩
  rw [List.nodup_flatMap]
  constructor
  · rintro ⟨-, disjoint⟩ interface mem other mem'
    by_cases same : interface = other
    · rw [same]
      exact name_notMem_aliasNames other
    · have : Std.Symm (Function.onFun List.Disjoint fun i : Interface => i.name :: aliasNames i) :=
        ⟨fun _ _ disjoint => disjoint.symm⟩
      exact ((disjoint_names_iff (apart mem mem' same)).1 (disjoint.forall mem mem' same)).1
  · intro free
    refine ⟨each, (distinct.of_map _).pairwise_of_forall_ne ?_⟩
    intro a memA b memB ne
    exact (disjoint_names_iff (apart memA memB ne)).2 ⟨free a memA b memB, free b memB a memA⟩

/-- Stanzas are for the names that a state asks for. Those of a valid state are distinct exactly if
no interface has the name that an alias gets. -/
theorem names_are_distinct_iff {state : State} (valid : state.validate = .ok ())
    (postupAlias : Bool) :
    (stanzas postupAlias state).map (·.name) = stanzaNames state ∧
    (((stanzas postupAlias state).map (·.name)).Nodup ↔
      ∀ interface ∈ state.interfaces, ∀ other ∈ state.interfaces,
        interface.name ∉ aliasNames other) := by
  have valid := Network.State.validate_eq_ok_iff.1 valid
  have perm := inOrder_perm state.interfaces
  have loopback : "lo" ∉ (inOrder state.interfaces).flatMap fun interface =>
      interface.name :: aliasNames interface := by
    rw [List.mem_flatMap]
    rintro ⟨interface, mem, named⟩
    rcases List.mem_cons.1 named with named | named
    · exact (valid.interfaces interface (perm.mem_iff.1 mem)).not_loopback named.symm
    · exact lo_notMem_aliasNames interface named
  refine ⟨map_name_stanzas postupAlias state, ?_⟩
  rw [map_name_stanzas, stanzaNames, List.nodup_cons,
    nodup_blocks_iff ((perm.map _).nodup_iff.2 valid.distinct)]
  simp only [perm.mem_iff]
  exact ⟨fun h => h.2, fun free => ⟨loopback, free⟩⟩

/-- An interface with an alias, and one with the name of the alias. -/
def namedAsAlias : State where
  interfaces := [
    { name := "eth0", kind := .physical, subnets := [{ kind := .dhcp4 }, { kind := .dhcp6 }] },
    { name := "eth0:1", kind := .physical }]

/-- The state is valid, and the name of the alias has two stanzas. -/
theorem names_are_distinct_iff_namedAsAlias :
    namedAsAlias.validate = .ok () ∧
      (stanzas false namedAsAlias).map (·.name) = ["lo", "eth0", "eth0:1", "eth0:1"] ∧
      ¬ ((stanzas false namedAsAlias).map (·.name)).Nodup := by
  have valid : namedAsAlias.validate = .ok () := by decide
  obtain ⟨names, distinct⟩ := names_are_distinct_iff valid false
  refine ⟨valid, ?_, ?_⟩
  · have sorted : inOrder namedAsAlias.interfaces = namedAsAlias.interfaces :=
      List.mergeSort_of_pairwise (by decide)
    rw [names, stanzaNames, sorted]
    decide +kernel
  · intro nodup
    apply distinct.1 nodup _ (List.mem_cons_of_mem _ List.mem_cons_self) _ List.mem_cons_self
    exact mem_aliasNames_iff.2 ⟨1, by decide, by decide, by decide +kernel⟩

end TargetNet.Interfaces
