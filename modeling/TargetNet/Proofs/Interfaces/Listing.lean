import Mathlib.Data.List.Nodup
import Mathlib.Data.List.Pairwise
import Mathlib.Tactic.Common
import TargetNet.Proofs.Interfaces.Blocks
import TargetNet.Proofs.Network.Valid

/-!
# The order of listing

The order that interfaces are listed in does not matter to what is written
(`listing_order_is_immaterial`). Output has an order of its own, by kind and name for stanzas and by
name for naming rules. Where names are distinct this order leaves no choice, so sorting takes every
listing of the same interfaces to the same list.
-/

namespace TargetNet

namespace Interfaces

open Network (State Interface)

/-- However interfaces with distinct names are listed, they are put in the same order. -/
lemma inOrder_eq_of_perm {listed interfaces : List Interface}
    (distinct : (interfaces.map (·.name)).Nodup) (perm : listed.Perm interfaces) :
    inOrder listed = inOrder interfaces := by
  have distinct' : (listed.map (·.name)).Nodup := (perm.map _).nodup_iff.2 distinct
  have sorted : (inOrder listed).Perm (inOrder interfaces) :=
    ((inOrder_perm listed).trans perm).trans (inOrder_perm interfaces).symm
  apply List.Perm.eq_of_pairwise _ (inOrder_strict distinct') (inOrder_strict distinct) sorted
  intro a b _ _ before after
  exact absurd after before.asymm

end Interfaces

namespace UdevRules

open Network (State Interface)

/-- The rules are those of the interfaces in another order. -/
lemma rules_perm (state : State) :
    (rules state).Perm (state.interfaces.filterMap rule?) :=
  List.mergeSort_perm _ _

/-- The interfaces with a rule have the names of the rules. -/
lemma names_of_rules (interfaces : List Interface) :
    ((interfaces.filterMap rule?).map (·.name)).Sublist (interfaces.map (·.name)) := by
  rw [Interfaces.filterMap_rule?, List.map_map]
  exact List.filter_sublist.map _

/-- Rules stand in the order of their names, which are as distinct as those of the interfaces. -/
lemma rules_strict {state : State} (distinct : (state.interfaces.map (·.name)).Nodup) :
    (rules state).Pairwise fun a b => a.name < b.name := by
  have apart : (rules state).Pairwise fun a b => a.name ≠ b.name :=
    List.pairwise_map.1 (((rules_perm state).map _).nodup_iff.2
      (distinct.sublist (names_of_rules state.interfaces)))
  have sorted : (rules state).Pairwise fun a b => a.name ≤ b.name :=
    Interfaces.pairwise_mergeSort_name Rule.name _
  apply (sorted.and apart).imp
  rintro a b ⟨le, apart⟩
  exact Std.lt_of_le_of_ne le apart

/-- The rules do not depend on the order in which interfaces are listed. -/
lemma rules_eq_of_perm {listed : List Interface} {state : State}
    (distinct : (state.interfaces.map (·.name)).Nodup) (perm : listed.Perm state.interfaces) :
    rules { state with interfaces := listed } = rules state := by
  have distinct' : (listed.map (·.name)).Nodup := (perm.map _).nodup_iff.2 distinct
  have sorted : (rules { state with interfaces := listed }).Perm (rules state) :=
    ((rules_perm _).trans (perm.filterMap rule?)).trans (rules_perm state).symm
  apply List.Perm.eq_of_pairwise _ (rules_strict distinct') (rules_strict distinct) sorted
  intro a b _ _ before after
  exact absurd (String.lt_trans before after) (String.lt_irrefl _)

end UdevRules

namespace Interfaces

open Network (State Interface)

/-- Interfaces with distinct names, as every valid state has them, give the same stanzas and naming
rules in whatever order they are listed. -/
theorem listing_order_is_immaterial (state : State) :
    (state.validate = .ok () → (state.interfaces.map (·.name)).Nodup) ∧
    ((state.interfaces.map (·.name)).Nodup → ∀ listed : List Interface,
      listed.Perm state.interfaces → ∀ postupAlias,
        render postupAlias { state with interfaces := listed } = render postupAlias state ∧
        UdevRules.render { state with interfaces := listed } = UdevRules.render state) := by
  refine ⟨fun valid => (Network.State.validate_eq_ok_iff.1 valid).distinct, ?_⟩
  intro distinct listed perm postupAlias
  have stanzas_eq : stanzas postupAlias { state with interfaces := listed } =
      stanzas postupAlias state := by
    rw [stanzas, stanzas, inOrder_eq_of_perm distinct perm]
    rfl
  refine ⟨?_, ?_⟩
  · rw [render, stanzas_eq, render]
  · rw [UdevRules.render, UdevRules.rules_eq_of_perm distinct perm, UdevRules.render]

/-- Two physical interfaces with addresses, under a bond. -/
def bondedPair : State where
  interfaces := [
    { name := "eth1", kind := .physical, mac := some "52:54:00:00:00:01" },
    { name := "bond0", kind := .bond, subnets := [{ kind := .dhcp4 }, { kind := .dhcp6 }] },
    { name := "eth0", kind := .physical, mac := some "52:54:00:00:00:00" }]

/-- Listed backwards, the pair and its bond are written as before. -/
theorem listing_order_is_immaterial_bondedPair :
    bondedPair.validate = .ok () ∧ bondedPair.interfaces.reverse ≠ bondedPair.interfaces ∧
      render true { bondedPair with interfaces := bondedPair.interfaces.reverse } =
        render true bondedPair ∧
      UdevRules.render { bondedPair with interfaces := bondedPair.interfaces.reverse } =
        UdevRules.render bondedPair := by
  have valid : bondedPair.validate = .ok () := by decide
  obtain ⟨distinct, same⟩ := listing_order_is_immaterial bondedPair
  refine ⟨valid, ?_, same (distinct valid) _ (List.reverse_perm _) true⟩
  intro backwards
  have first := congrArg (fun interfaces => (interfaces.map (·.name)).head?) backwards
  exact absurd first (by decide)

end Interfaces

end TargetNet
