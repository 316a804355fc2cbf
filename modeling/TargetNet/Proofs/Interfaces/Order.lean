import Mathlib.Data.List.Nodup
import Mathlib.Data.List.Pairwise
import Mathlib.Tactic.Common
import TargetNet.Interfaces.Render

/-!
# The order of output

Interfaces are written in the order of their kinds, and of their names within a kind. `IsBefore` is
that order; interfaces with different names are always one before the other.
-/

namespace TargetNet

namespace Network

lemma InterfaceKind.rank_inj {a b : InterfaceKind} (same : a.rank = b.rank) : a = b := by
  revert same
  cases a <;> cases b <;> decide

/-- An interface has a place before another one in the output. -/
def Interface.IsBefore (a b : Interface) : Prop :=
  a.kind.rank < b.kind.rank ∨ a.kind = b.kind ∧ a.name < b.name

/-- Of two interfaces, not both have their place before the other. -/
lemma Interface.IsBefore.asymm {a b : Interface} (before : a.IsBefore b) : ¬ b.IsBefore a := by
  rintro (lower | ⟨same, lower⟩)
  · rcases before with before | ⟨same', -⟩
    · omega
    · rw [same'] at lower
      omega
  · rcases before with before | ⟨-, before⟩
    · rw [same] at before
      omega
    · exact String.lt_irrefl _ (String.lt_trans before lower)

/-- Of two interfaces with different names, one has its place before the other. -/
lemma Interface.isBefore_or {a b : Interface} (apart : a.name ≠ b.name) :
    a.IsBefore b ∨ b.IsBefore a := by
  rcases Nat.lt_trichotomy a.kind.rank b.kind.rank with lower | same | higher
  · exact .inl (.inl lower)
  · have same := InterfaceKind.rank_inj same
    rcases String.le_total a.name b.name with le | le
    · exact .inl (.inr ⟨same, Std.lt_of_le_of_ne le apart⟩)
    · exact .inr (.inr ⟨same.symm, Std.lt_of_le_of_ne le apart.symm⟩)
  · exact .inr (.inl higher)

end Network

namespace Interfaces

open Network (Interface State)

/-- What the comparison of two interfaces says. -/
lemma comesBefore_iff {a b : Interface} :
    comesBefore a b = true ↔ a.kind.rank < b.kind.rank ∨ a.kind = b.kind ∧ a.name ≤ b.name := by
  have rank : a.kind.rank = b.kind.rank ↔ a.kind = b.kind :=
    ⟨Network.InterfaceKind.rank_inj, congrArg _⟩
  simp [comesBefore, rank]

/-- Any two interfaces can be compared. -/
lemma comesBefore_total (a b : Interface) : (comesBefore a b || comesBefore b a) = true := by
  rw [Bool.or_eq_true, comesBefore_iff, comesBefore_iff]
  rcases Nat.lt_trichotomy a.kind.rank b.kind.rank with lower | same | higher
  · exact .inl (.inl lower)
  · have same := Network.InterfaceKind.rank_inj same
    exact (String.le_total a.name b.name).imp (fun le => .inr ⟨same, le⟩)
      fun le => .inr ⟨same.symm, le⟩
  · exact .inr (.inl higher)

/-- Comparing interfaces is transitive. -/
lemma comesBefore_trans (a b c : Interface) (first : comesBefore a b = true)
    (second : comesBefore b c = true) : comesBefore a c = true := by
  rw [comesBefore_iff] at first second ⊢
  rcases first with first | ⟨same, first⟩
  · rcases second with second | ⟨same', -⟩
    · exact .inl (Nat.lt_trans first second)
    · exact .inl (same' ▸ first)
  · rcases second with second | ⟨same', second⟩
    · exact .inl (same ▸ second)
    · exact .inr ⟨same.trans same', String.le_trans first second⟩

/-- Sorting neither adds nor drops an interface. -/
lemma inOrder_perm (interfaces : List Interface) : (inOrder interfaces).Perm interfaces :=
  List.mergeSort_perm interfaces comesBefore

/-- Sorted interfaces stand by kind, then by name. -/
lemma inOrder_sorted (interfaces : List Interface) :
    (inOrder interfaces).Pairwise
      fun a b => a.kind.rank < b.kind.rank ∨ a.kind = b.kind ∧ a.name ≤ b.name :=
  (List.pairwise_mergeSort comesBefore_trans comesBefore_total interfaces).imp comesBefore_iff.1

/-- With distinct names, each has its place before all that come after it. -/
lemma inOrder_strict {interfaces : List Interface}
    (distinct : (interfaces.map (·.name)).Nodup) :
    (inOrder interfaces).Pairwise Interface.IsBefore := by
  have apart : (inOrder interfaces).Pairwise fun a b => a.name ≠ b.name :=
    List.pairwise_map.1 (((inOrder_perm interfaces).map _).nodup_iff.2 distinct)
  apply ((inOrder_sorted interfaces).and apart).imp
  rintro a b ⟨lower | ⟨same, le⟩, apart⟩
  · exact .inl lower
  · exact .inr ⟨same, Std.lt_of_le_of_ne le apart⟩

/-- What is sorted by name has its names in order. -/
lemma pairwise_mergeSort_name {α : Type} (name : α → String) (items : List α) :
    (items.mergeSort fun a b => decide (name a ≤ name b)).Pairwise fun a b => name a ≤ name b := by
  refine (List.pairwise_mergeSort ?_ ?_ items).imp of_decide_eq_true
  · intro a b c
    simpa using String.le_trans
  · intro a b
    simpa using String.le_total (name a) (name b)

end Interfaces

end TargetNet
