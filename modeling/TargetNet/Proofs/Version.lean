import Mathlib.Tactic.Common
import TargetNet.Version

/-!
# The order of versions

Versions are compared number by number. `Version.IsBelow` says which of two comes first: the first
number that differs decides.
-/

namespace TargetNet.Version

/-- The numbers of a version come before those of another one. -/
def IsBelow (a b : Version) : Prop :=
  a.major < b.major ∨ a.major = b.major ∧
    (a.minor < b.minor ∨ a.minor = b.minor ∧ a.micro < b.micro)

/-- A version is told by its numbers and its text. -/
lemma eq_of_numbers {a b : Version} (major : a.major = b.major) (minor : a.minor = b.minor)
    (micro : a.micro = b.micro) (raw : a.raw = b.raw) : a = b := by
  have semantic : a.semantic = b.semantic := by
    rw [a.packed, b.packed, major, minor, micro]
  cases a
  cases b
  cases major
  cases minor
  cases micro
  cases semantic
  cases raw
  rfl

instance : DecidableRel IsBelow := fun _ _ => inferInstanceAs (Decidable (_ ∨ _ ∧ _))

/-- The comparison says when a version is below another one. -/
lemma compare_eq_lt_iff {a b : Version} : compare a b = .lt ↔ a.IsBelow b := by
  have below {m n : UInt64} : Ord.compare m n = .lt ↔ m < n := compareOfLessAndEq_eq_lt
  have same {m n : UInt64} : Ord.compare m n = .eq ↔ m = n := Std.compare_eq_iff_eq
  rw [compare, Ordering.then_eq_lt, Ordering.then_eq_lt, below, below, below, same, same]
  rfl

/-- Versions compare as equal if and only if they have the same numbers. -/
lemma compare_eq_eq_iff {a b : Version} :
    compare a b = .eq ↔ a.major = b.major ∧ a.minor = b.minor ∧ a.micro = b.micro := by
  have same {m n : UInt64} : Ord.compare m n = .eq ↔ m = n := Std.compare_eq_iff_eq
  rw [compare, Ordering.then_eq_eq, Ordering.then_eq_eq, same, same, same]

/-- A version that is not above another one is below it or has the same numbers. -/
lemma compare_ne_gt_iff {a b : Version} :
    compare a b ≠ .gt ↔
      a.IsBelow b ∨ a.major = b.major ∧ a.minor = b.minor ∧ a.micro = b.micro := by
  rw [← compare_eq_lt_iff, ← compare_eq_eq_iff]
  cases compare a b <;> simp

lemma isOlderThan_iff {a b : Version} : a.isOlderThan b = true ↔ a.IsBelow b := by
  rw [isOlderThan, beq_iff_eq, compare_eq_lt_iff]

end TargetNet.Version
