import Mathlib.Data.List.Basic
import Mathlib.Tactic.Common
import TargetNet.Interfaces.Render

/-!
# Parameters flattened

A parameter may be a list, and a list may have lists in it. What is written for it are its `leaves`, the
printed scalars in the order in which they occur, with a space between each two. The text is put
together list by list, and lists without a leaf are left out on the way, so this is a law about the
recursion: joining the joined parts is joining all at once (`spaced_map_spaced`), as long as no part is
empty. An empty string is a leaf like others, and not the same as none (`params_are_flattened`).
-/

namespace TargetNet

namespace Text

/-- Joining the joined parts is joining all at once, if there is something in each part. -/
lemma spaced_map_spaced {groups : List (List String)} (nonempty : ∀ group ∈ groups, group ≠ []) :
    spaced (groups.map spaced) = spaced groups.flatten := by
  induction groups with
  | nil => rfl
  | cons group rest ih =>
    obtain ⟨first, others⟩ := List.forall_mem_cons.1 nonempty
    cases rest with
    | nil => simp [spaced]
    | cons next rest =>
      have more : (next :: rest).flatten ≠ [] := by
        intro empty
        exact others next List.mem_cons_self
          (List.flatten_eq_nil_iff.1 empty next List.mem_cons_self)
      calc spaced ((group :: next :: rest).map spaced)
          = spaced group ++ " " ++ spaced ((next :: rest).map spaced) :=
            String.intercalate_cons_cons
        _ = spaced group ++ " " ++ spaced (next :: rest).flatten := by rw [ih others]
        _ = spaced (group :: next :: rest).flatten :=
            (String.intercalate_append_of_ne_nil first more).symm

end Text

namespace Interfaces

open Yaml (Value)

mutual

/-- The printed scalars in a value, in the order in which they occur. Nothing is printed for nulls,
mappings and tagged values. -/
def leaves : Value → List String
  | .string s => [s]
  | .int n => [Decimal.intText n]
  | .float x => [Value.floatText x]
  | .bool b => [if b then "on" else "off"]
  | .sequence items => allLeaves items
  | .null | .mapping _ | .tagged _ _ => []

/-- The printed scalars in several values. -/
def allLeaves : List Value → List String
  | [] => []
  | item :: rest => leaves item ++ allLeaves rest

end

/-- The leaves of several values are those of each, one after the other. -/
lemma allLeaves_eq_flatten (items : List Value) : allLeaves items = (items.map leaves).flatten := by
  induction items with
  | nil => rfl
  | cons item rest ih => rw [allLeaves, ih, List.map_cons, List.flatten_cons]

/-- The leaves of several values, value by value, without those that have none. -/
def leafGroups (items : List Value) : List (List String) :=
  (items.map leaves).filter fun group => !group.isEmpty

lemma flatten_leafGroups (items : List Value) : (leafGroups items).flatten = allLeaves items := by
  rw [leafGroups, List.flatten_filter_not_isEmpty, allLeaves_eq_flatten]

lemma leafGroups_eq_nil_iff {items : List Value} : leafGroups items = [] ↔ allLeaves items = [] := by
  rw [leafGroups, List.filter_eq_nil_iff, allLeaves_eq_flatten, List.flatten_eq_nil_iff]
  simp

/-- Every group has a leaf. -/
lemma ne_nil_of_mem_leafGroups {items : List Value} : ∀ group ∈ leafGroups items, group ≠ [] := by
  intro group mem
  have kept := (List.mem_filter.1 mem).2
  rintro rfl
  cases kept

mutual

/-- What is printed for a value are its leaves with spaces between them. -/
theorem paramText_eq (value : Value) :
    paramText value = if leaves value = [] then none else some (Text.spaced (leaves value)) := by
  cases value with
  | string s => simp [paramText, leaves, Text.spaced]
  | int n => simp [paramText, leaves, Text.spaced]
  | float x => simp [paramText, leaves, Text.spaced]
  | bool b => cases b <;> simp [paramText, leaves, Text.spaced]
  | sequence items =>
    rw [paramText, paramTexts_eq items, leaves, Text.spaced_map_spaced ne_nil_of_mem_leafGroups,
      flatten_leafGroups]
    simp only [List.isEmpty_iff, List.map_eq_nil_iff, leafGroups_eq_nil_iff]
  | null => simp [paramText, leaves]
  | mapping entries => simp [paramText, leaves]
  | tagged tag value => simp [paramText, leaves]

/-- What is printed for several values are their groups of leaves. -/
theorem paramTexts_eq (items : List Value) :
    paramTexts items = (leafGroups items).map Text.spaced := by
  cases items with
  | nil => rfl
  | cons item rest =>
    rw [paramTexts, paramText_eq item, paramTexts_eq rest]
    by_cases empty : leaves item = []
    · rw [if_pos empty]
      simp [leafGroups, empty]
    · rw [if_neg empty]
      simp [leafGroups, empty]

end

/-- However lists are nested in a parameter, its text are the printed scalars in it, in order and with a
single space between each two. There is no text exactly if there is no scalar to print. -/
theorem params_are_flattened (value : Value) :
    (paramText value = none ↔ leaves value = []) ∧
    (leaves value ≠ [] → paramText value = some (" ".intercalate (leaves value))) := by
  rw [paramText_eq]
  by_cases empty : leaves value = []
  · rw [if_pos empty]
    exact ⟨iff_of_true rfl empty, absurd empty⟩
  · rw [if_neg empty]
    exact ⟨iff_of_false nofun empty, fun _ => rfl⟩

example : paramText (.sequence [.string "", .sequence [.null, .sequence []], .bool true]) =
    some " on" := by
  decide

end Interfaces

end TargetNet
