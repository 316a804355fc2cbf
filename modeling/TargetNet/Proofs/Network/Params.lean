import Mathlib.Data.List.Nodup
import Mathlib.Tactic.Common
import TargetNet.Network.Params

/-!
# Parameters by name

The entries of parameters are what `get?` finds, each once and in the order of the names
(`Params.mem_entries_iff`), so parameters that answer alike are equal (`Params.ext_get?`).
-/

namespace TargetNet.Network

open Yaml (Value)

/-- Among sorted entries, the one with a name is found. -/
lemma lookupEntry_eq_some_iff {entries : List (String × Value)} (sorted : IsSorted entries)
    {name : String} {value : Value} :
    lookupEntry name entries = some value ↔ (name, value) ∈ entries := by
  induction entries with
  | nil => simp [lookupEntry]
  | cons entry rest ih =>
    obtain ⟨n, v⟩ := entry
    obtain ⟨first, sorted⟩ := List.pairwise_cons.1 sorted
    rw [lookupEntry, List.mem_cons, Prod.mk.injEq]
    split
    · rename_i same
      subst same
      -- what follows has later names
      have apart : (n, value) ∉ rest := fun mem => String.lt_irrefl n (first _ mem)
      simp [apart, eq_comm]
    · rename_i other
      rw [ih sorted]
      simp [Ne.symm other]

namespace Params

/-- The entries of parameters are what is found under their names. -/
lemma mem_entries_iff {params : Params} {name : String} {value : Value} :
    (name, value) ∈ params.entries ↔ params.get? name = some value :=
  (lookupEntry_eq_some_iff params.sorted).symm

/-- Parameters that give the same for every name are equal. -/
lemma ext_get? {a b : Params} (same : ∀ name, a.get? name = b.get? name) : a = b := by
  have nodup (params : Params) : params.entries.Nodup := by
    apply params.sorted.imp
    intro x y before same
    exact String.lt_irrefl y.1 (same ▸ before)
  have entries : a.entries.Perm b.entries := by
    rw [List.perm_ext_iff_of_nodup (nodup a) (nodup b)]
    intro entry
    rw [mem_entries_iff, mem_entries_iff, same]
  have order (x y : String × Value) (before : x.1 < y.1) (after : y.1 < x.1) : x = y :=
    absurd (String.lt_trans before after) (String.lt_irrefl x.1)
  obtain ⟨_, sorted⟩ := a
  obtain ⟨_, sorted'⟩ := b
  rw [mk.injEq]
  exact entries.eq_of_pairwise (fun x y _ _ => order x y) sorted sorted'

/-- Of two values for one name, the later one counts. -/
lemma insert_insert (params : Params) (name : String) (first last : Value) :
    (params.insert name first).insert name last = params.insert name last := by
  apply ext_get?
  intro other
  by_cases same : other = name
  · subst same
    rw [get?_insert_self, get?_insert_self]
  · rw [get?_insert_of_ne _ same, get?_insert_of_ne _ same, get?_insert_of_ne _ same]

end Params

end TargetNet.Network
