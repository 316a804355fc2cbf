import TargetNet.Error
import TargetNet.Proofs.TargetFile

/-!
# The canonical spelling of a path

Of all paths that lead to the same place below a directory, with empty pieces and dots left in or not,
one is canonical: its text is the pieces that remain, with a slash between each two. It is what an
accepted path is turned into (`relative_is_canonical`).
-/

namespace TargetNet.Path

/-- A canonical spelling goes on from the components of any directory with its own. -/
lemma components_join_ofNames (base : Path) {names : List Name} (some : names ≠ [])
    (proper : ∀ name ∈ names, IsProper name) :
    (base.join (ofNames names)).components = base.components ++ (ofNames names).components := by
  by_cases ne : base.bytes = []
  · have nothing : base.components = [] := by
      rw [components_eq, start, isAbsolute, named, ne]
      rfl
    rw [join, if_pos (.inr ne), nothing, List.nil_append]
  · rw [components_join (isAbsolute_ofNames proper) ne, components_ofNames some proper,
      named_ofNames some proper, ← List.filterMap_eq_map]
    rw [List.filterMap_congr fun name mem => (proper name mem).ofPiece]
    rfl

/-- A path is accepted exactly if it is relative, does not go up, and leads on to somewhere; which
refusal it gets otherwise is decided in this order. The pieces that remain make its canonical spelling:
it has no others, and it is its own canonical spelling. Two paths are spelled alike exactly if the same
pieces remain of them. In a target, the components of an accepted path are those of the root and then
those of the canonical spelling. -/
theorem relative_is_canonical (path : Path) :
    (path.bytes.head? = some slash → path.relative = .error (.absolute path) ∧
      (Error.path (.absolute path)).kind = .invalidPath) ∧
    (path.bytes.head? ≠ some slash →
      ([dot, dot] ∈ path.bytes.splitOn slash → path.relative = .error (.ascends path) ∧
        (Error.path (.ascends path)).kind = .pathTraversal) ∧
      ([dot, dot] ∉ path.bytes.splitOn slash →
        (path.remaining = [] → path.relative = .error .empty ∧
          (Error.path .empty).kind = .invalidPath) ∧
        (path.remaining ≠ [] → path.relative = .ok ⟨[slash].intercalate path.remaining⟩))) ∧
    (∀ result, path.relative = .ok result →
      result.bytes.splitOn slash = path.remaining ∧
      (∀ piece ∈ result.bytes.splitOn slash, piece ≠ [] ∧ piece ≠ [dot] ∧ piece ≠ [dot, dot]) ∧
      result.relative = .ok result ∧
      (∀ (other : Path) result', other.relative = .ok result' →
        (result = result' ↔ path.remaining = other.remaining) ∧
        (result.same result' = true ↔ path.remaining = other.remaining)) ∧
      ∀ fs root joined, targetPathIn fs root path = .ok joined →
        joined.components = root.components ++ result.components) := by
  have absolute_iff : path.isAbsolute = true ↔ path.bytes.head? = some slash := by
    rw [isAbsolute, beq_iff_eq]
  refine ⟨fun absolute => ⟨?_, rfl⟩, fun relative => ?_, fun result accepted => ?_⟩
  · rw [relative_eq, if_pos (absolute_iff.2 absolute)]
  · rw [relative_eq, if_neg (mt absolute_iff.1 relative)]
    refine ⟨fun up => ⟨if_pos up, rfl⟩, fun stays => ?_⟩
    rw [if_neg stays]
    refine ⟨fun nothing => ⟨if_pos nothing, rfl⟩, fun some => ?_⟩
    rw [if_neg some, ofNames, joinNames_eq_intercalate]
  · obtain ⟨-, stays, some, rfl⟩ := relative_eq_ok_iff.1 accepted
    have proper := isProper_of_mem_remaining stays
    have split := splitOn_ofNames some proper
    refine ⟨split, ?_, relative_ofNames some proper, ?_, ?_⟩
    · rw [split]
      exact fun piece mem => ⟨(proper piece mem).ne_nil, (proper piece mem).ne_dot,
        (proper piece mem).ne_dots⟩
    · intro other result' accepted'
      obtain ⟨-, stays', some', rfl⟩ := relative_eq_ok_iff.1 accepted'
      have proper' := isProper_of_mem_remaining stays'
      refine ⟨⟨fun alike => ?_, fun same => by rw [same]⟩, ?_⟩
      · rw [← split, alike, splitOn_ofNames some' proper']
      · rw [same, beq_iff_eq, components_ofNames some proper, components_ofNames some' proper']
        exact List.map_inj_right fun _ _ => Component.name.inj
    · intro fs root joined inside
      obtain ⟨result', accepted', rfl, -⟩ := targetPathIn_eq_ok_iff.1 inside
      cases accepted.symm.trans accepted'
      exact components_join_ofNames root some proper

end TargetNet.Path
