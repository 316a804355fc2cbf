import Mathlib.Data.List.Nodup
import Mathlib.Data.List.Pairwise
import Mathlib.Tactic.Common
import TargetNet.Proofs.Interfaces.Order
import TargetNet.Proofs.Network.References

/-!
# Devices after the devices they use

Stanzas are written in one fixed order, by kind and name, whatever uses what. So the stanzas of a
device stand after those of a device that it uses exactly if the order happens to say so
(`stands_after_iff`): a bond over physical interfaces, a bridge over those and over bonds, and a vlan
over any of them are in order, while a bridge over a vlan comes before it.
-/

namespace TargetNet.Interfaces

open Network

variable {postupAlias : Bool} {state : State}

/-- The stanzas of a state, each with the name of the interface that it is for. -/
def ownedStanzas (postupAlias : Bool) (state : State) : List (Option String × Stanza) :=
  (none, loopbackStanza state) :: (inOrder state.interfaces).flatMap fun interface =>
    (interfaceStanzas postupAlias interface).map fun stanza => (some interface.name, stanza)

/-- All stanzas of one interface stand after all those of another one. -/
def StandsAfter (postupAlias : Bool) (state : State) (later earlier : String) : Prop :=
  (ownedStanzas postupAlias state).Pairwise fun first second =>
    ¬ (first.1 = some later ∧ second.1 = some earlier)

lemma map_snd_ownedStanzas :
    (ownedStanzas postupAlias state).map (·.2) = stanzas postupAlias state := by
  simp [ownedStanzas, stanzas, List.map_flatMap, Function.comp_def]

/-- Every interface has a stanza. -/
lemma interfaceStanzas_ne_nil (postupAlias : Bool) (interface : Interface) :
    interfaceStanzas postupAlias interface ≠ [] := by
  unfold interfaceStanzas
  split
  · exact List.cons_ne_nil _ _
  · rename_i subnets
    cases h : interface.subnets with
    | nil => exact absurd h subnets
    | cons subnet rest => exact List.cons_ne_nil _ _

/-- Stanzas stand in the order of their interfaces. -/
lemma standsAfter_iff_pairwise {later earlier : String} (apart : later ≠ earlier) :
    StandsAfter postupAlias state later earlier ↔
      (inOrder state.interfaces).Pairwise fun a b => ¬ (a.name = later ∧ b.name = earlier) := by
  rw [StandsAfter, ownedStanzas, List.pairwise_cons, List.pairwise_flatMap]
  constructor
  · rintro ⟨-, -, blocks⟩
    apply blocks.imp
    rintro a b free ⟨rfl, rfl⟩
    obtain ⟨s, ofA⟩ := List.exists_mem_of_ne_nil _ (interfaceStanzas_ne_nil postupAlias a)
    obtain ⟨t, ofB⟩ := List.exists_mem_of_ne_nil _ (interfaceStanzas_ne_nil postupAlias b)
    exact free _ (List.mem_map_of_mem ofA) _ (List.mem_map_of_mem ofB) ⟨rfl, rfl⟩
  · intro blocks
    refine ⟨?_, ?_, ?_⟩
    · rintro _ - ⟨loopback, -⟩
      cases loopback
    · intro a _
      apply List.pairwise_map.2
      apply List.pairwise_of_forall
      rintro s t ⟨first, second⟩
      exact apart (Option.some.inj (first.symm.trans second))
    · apply blocks.imp
      intro a b free s ofA t ofB both
      obtain ⟨_, -, rfl⟩ := List.mem_map.1 ofA
      obtain ⟨_, -, rfl⟩ := List.mem_map.1 ofB
      exact free ⟨Option.some.inj both.1, Option.some.inj both.2⟩

/-- Of two interfaces with different names, one has all its stanzas after the other. -/
lemma standsAfter_of_isBefore (distinct : (state.interfaces.map (·.name)).Nodup)
    {earlier later : Interface} (memE : earlier ∈ state.interfaces) (memL : later ∈ state.interfaces)
    (before : earlier.IsBefore later) : StandsAfter postupAlias state later.name earlier.name := by
  have unique {a b : Interface} (memA : a ∈ inOrder state.interfaces) (memB : b ∈ state.interfaces)
      (same : a.name = b.name) : a = b :=
    List.inj_on_of_nodup_map distinct ((inOrder_perm _).mem_iff.1 memA) memB same
  apply (standsAfter_iff_pairwise _).2
  · apply (inOrder_strict distinct).imp_of_mem
    rintro x y memX memY order ⟨isLater, isEarlier⟩
    cases unique memX memL isLater
    cases unique memY memE isEarlier
    exact before.asymm order
  · intro same
    cases unique ((inOrder_perm _).mem_iff.2 memL) memE same
    exact before.asymm before

/-- Of two interfaces, not both stand after the other. -/
lemma StandsAfter.asymm {a b : Interface} (memA : a ∈ state.interfaces) (memB : b ∈ state.interfaces)
    (apart : a.name ≠ b.name) (after : StandsAfter postupAlias state a.name b.name) :
    ¬ StandsAfter postupAlias state b.name a.name := by
  intro also
  have both := ((standsAfter_iff_pairwise apart).1 after).and
    ((standsAfter_iff_pairwise apart.symm).1 also)
  have : Std.Symm fun x y : Interface => ¬ (x.name = a.name ∧ y.name = b.name) ∧
      ¬ (x.name = b.name ∧ y.name = a.name) :=
    ⟨fun x y h => ⟨fun e => h.2 e.symm, fun e => h.1 e.symm⟩⟩
  have neither := both.forall ((inOrder_perm _).mem_iff.2 memA) ((inOrder_perm _).mem_iff.2 memB)
    (fun same => apart (congrArg _ same))
  exact neither.1 ⟨rfl, rfl⟩

/-- The stanzas of a device stand after those of a device that it uses exactly if the used one comes
before it by kind and name; else they stand before them. -/
theorem stands_after_iff {entries : List ConfigEntry}
    (accepted : State.ofEntries entries = .ok state) {owner name : String}
    (uses : Uses entries owner name) (postupAlias : Bool) :
    (ownedStanzas postupAlias state).map (·.2) = stanzas postupAlias state ∧
    ∃ user ∈ state.interfaces, ∃ used ∈ state.interfaces, user.name = owner ∧ used.name = name ∧
      (StandsAfter postupAlias state owner name ↔ used.IsBefore user) ∧
      (¬ used.IsBefore user → StandsAfter postupAlias state name owner) := by
  refine ⟨map_snd_ownedStanzas, ?_⟩
  obtain ⟨place, place', before, isUsed, isUser⟩ := State.places_of_uses accepted uses
  have distinct := (State.ofEntries_eq_ok_iff.1 accepted).2.2.distinct
  obtain ⟨used, memUsed, rfl⟩ := State.exists_of_nameAt? ((isUsed place).2 rfl)
  obtain ⟨user, memUser, rfl⟩ := State.exists_of_nameAt? ((isUser place').2 rfl)
  have apart : user.name ≠ used.name := by
    intro same
    have := (isUsed place').1 (same ▸ (isUser place').2 rfl)
    omega
  refine ⟨user, memUser, used, memUsed, rfl, rfl, ⟨?_, ?_⟩, ?_⟩
  · intro after
    rcases Interface.isBefore_or apart with userFirst | usedFirst
    · exact absurd (standsAfter_of_isBefore distinct memUser memUsed userFirst)
        (after.asymm memUser memUsed apart)
    · exact usedFirst
  · exact standsAfter_of_isBefore distinct memUsed memUser
  · intro notFirst
    exact standsAfter_of_isBefore distinct memUser memUsed
      ((Interface.isBefore_or apart).resolve_right notFirst)

/-- A bridge over a vlan is written before the vlan. -/
theorem stands_after_iff_bridgedVlan :
    State.ofEntries bridgedVlan = .ok bridgedVlanState ∧ Uses bridgedVlan "br0" "eth0.5" ∧
      ¬ StandsAfter false bridgedVlanState "br0" "eth0.5" ∧
      StandsAfter false bridgedVlanState "eth0.5" "br0" := by
  obtain ⟨-, user, memUser, used, memUsed, isUser, isUsed, after, before⟩ :=
    stands_after_iff ofEntries_bridgedVlan uses_bridgedVlan false
  have bridge : user.kind = .bridge := by
    simp only [bridgedVlanState, List.mem_cons, List.not_mem_nil, or_false] at memUser
    rcases memUser with rfl | rfl | rfl <;> simp_all
  have vlan : used.kind = .vlan := by
    simp only [bridgedVlanState, List.mem_cons, List.not_mem_nil, or_false] at memUsed
    rcases memUsed with rfl | rfl | rfl <;> simp_all
  have notFirst : ¬ used.IsBefore user := by
    rintro (lower | ⟨same, -⟩)
    · rw [bridge, vlan] at lower
      exact absurd lower (by decide)
    · rw [bridge, vlan] at same
      cases same
  exact ⟨ofEntries_bridgedVlan, uses_bridgedVlan, fun h => notFirst (after.1 h), before notFirst⟩

end TargetNet.Interfaces
