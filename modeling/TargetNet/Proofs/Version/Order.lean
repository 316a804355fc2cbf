import Mathlib.Data.Prod.Lex
import Mathlib.Order.Compare
import TargetNet.Proofs.Version

/-!
# The order of versions is lawful

Comparing versions is comparing their three numbers lexicographically (`compare_eq_cmp`), and so it is a
total order up to what the numbers do not show: the text that a version was read from. Equality looks at
the text as well, so two versions may be equal in the order and not be equal. For versions that are put
together from numbers order and equality agree (`order_agrees_with_equality_iff`).
-/

namespace TargetNet.Version

/-- The numbers of a version, under the lexicographic order. -/
def numbers (v : Version) : ℕ ×ₗ ℕ ×ₗ ℕ :=
  toLex (v.major.toNat, toLex (v.minor.toNat, v.micro.toNat))

variable {a b c : Version}

lemma numbers_lt_iff : a.numbers < b.numbers ↔ a.IsBelow b := by
  rw [numbers, numbers, Prod.Lex.toLex_lt_toLex, Prod.Lex.toLex_lt_toLex]
  simp only [IsBelow, UInt64.lt_iff_toNat_lt, UInt64.toNat_inj]

lemma numbers_eq_iff :
    a.numbers = b.numbers ↔ a.major = b.major ∧ a.minor = b.minor ∧ a.micro = b.micro := by
  simp only [numbers, EmbeddingLike.apply_eq_iff_eq, Prod.mk.injEq, UInt64.toNat_inj]

/-- The comparison says how the numbers are ordered. -/
lemma compare_compares (a b : Version) : (compare a b).Compares a.numbers b.numbers := by
  cases order : compare a b with
  | lt => exact numbers_lt_iff.2 (compare_eq_lt_iff.1 order)
  | eq => exact numbers_eq_iff.2 (compare_eq_eq_iff.1 order)
  | gt =>
    rcases lt_trichotomy a.numbers b.numbers with below | same | above
    · cases order.symm.trans (compare_eq_lt_iff.2 (numbers_lt_iff.1 below))
    · cases order.symm.trans (compare_eq_eq_iff.2 (numbers_eq_iff.1 same))
    · exact above

/-- Versions are compared as their numbers are. -/
lemma compare_eq_cmp (a b : Version) : compare a b = cmp a.numbers b.numbers :=
  (compare_compares a b).cmp_eq.symm

lemma compare_swap (a b : Version) : (compare a b).swap = compare b a := by
  rw [compare_eq_cmp, compare_eq_cmp, cmp_swap]

/-- Two comparisons with the same result make a third one. -/
lemma compare_trans {order : Ordering} (first : compare a b = order) (second : compare b c = order) :
    compare a c = order := by
  rw [compare_eq_cmp] at first second ⊢
  cases order with
  | lt =>
    rw [cmp_eq_lt_iff] at first second ⊢
    exact first.trans second
  | eq =>
    rw [cmp_eq_eq_iff] at first second ⊢
    exact first.trans second
  | gt =>
    rw [cmp_eq_gt_iff] at first second ⊢
    exact second.trans first

/-- Not being above is transitive. -/
lemma compare_ne_gt_trans (first : compare a b ≠ .gt) (second : compare b c ≠ .gt) :
    compare a c ≠ .gt := by
  rw [compare_eq_cmp, Ne, cmp_eq_gt_iff, not_lt] at first second ⊢
  exact first.trans second

instance : Std.TransOrd Version where
  eq_swap := (compare_swap _ _).symm
  isLE_trans := by
    simp only [Ordering.isLE_iff_ne_gt]
    exact compare_ne_gt_trans

/-- Versions with the same numbers have the same packed number. -/
lemma semantic_eq_of_compare (same : compare a b = .eq) : a.semantic = b.semantic := by
  obtain ⟨major, minor, micro⟩ := compare_eq_eq_iff.1 same
  rw [a.packed, b.packed, major, minor, micro]

/-- Equality looks at the text as well as at the numbers. -/
lemma eq_iff : a = b ↔ compare a b = .eq ∧ a.raw = b.raw := by
  rw [compare_eq_eq_iff]
  constructor
  · rintro rfl
    exact ⟨⟨rfl, rfl, rfl⟩, rfl⟩
  · rintro ⟨⟨major, minor, micro⟩, raw⟩
    exact eq_of_numbers major minor micro raw

/-- A version that is put together from numbers has no text of its own. -/
lemma compare_ofNumbers_eq_iff {major minor micro major' minor' micro' : UInt64} :
    compare (ofNumbers major minor micro) (ofNumbers major' minor' micro') = .eq ↔
      ofNumbers major minor micro = ofNumbers major' minor' micro' := by
  rw [eq_iff, iff_self_and]
  intro equal
  obtain ⟨majors, minors, micros⟩ := compare_eq_eq_iff.1 equal
  rw [ofNumbers, ofNumbers, withText, withText] at majors minors micros
  cases majors
  cases minors
  cases micros
  rfl

/-- The order of versions is the lexicographic one of their numbers: turning a comparison around swaps
it, comparisons with the same result make a third one, and so do two that do not say that the first
version is newer; the partial comparison and the test for an older version say the same. Versions are
equal exactly if they compare equal, and so have the same packed number, and have the same text. So
order and equality agree on two versions exactly unless these have the same numbers and different
texts, and on versions put together from numbers they always agree. -/
theorem order_agrees_with_equality_iff (a b c : Version) :
    compare a b = cmp a.numbers b.numbers ∧
    compare b a = (compare a b).swap ∧
    (∀ order, compare a b = order → compare b c = order → compare a c = order) ∧
    (compare a b ≠ .gt → compare b c ≠ .gt → compare a c ≠ .gt) ∧
    partialCompare a b = some (compare a b) ∧
    (a.isOlderThan b = true ↔ compare a b = .lt) ∧
    (a = b ↔ compare a b = .eq ∧ a.semantic = b.semantic ∧ a.raw = b.raw) ∧
    ((compare a b = .eq ↔ a = b) ↔ ¬ (a.numbers = b.numbers ∧ a.raw ≠ b.raw)) ∧
    (∀ major minor micro major' minor' micro',
      (compare (ofNumbers major minor micro) (ofNumbers major' minor' micro') = .eq ↔
        ofNumbers major minor micro = ofNumbers major' minor' micro')) := by
  have same : compare a b = .eq ↔ a.numbers = b.numbers := by
    rw [compare_eq_cmp, cmp_eq_eq_iff]
  refine ⟨compare_eq_cmp a b, (compare_swap a b).symm, fun order => compare_trans,
    compare_ne_gt_trans, rfl, beq_iff_eq, ?_, ?_, fun _ _ _ _ _ _ => compare_ofNumbers_eq_iff⟩
  · rw [eq_iff]
    exact and_congr_right fun same => (and_iff_right (semantic_eq_of_compare same)).symm
  · rw [eq_iff, ← same, iff_self_and, not_and, not_not]

/-- A version read with a revision and the same version without one: neither is older, and they are not
equal. -/
theorem order_agrees_with_equality_iff_revision :
    ∃ version, parse "0.8.6-1" = .ok version ∧ compare version (ofNumbers 0 8 6) = .eq ∧
      version ≠ ofNumbers 0 8 6 := by
  have order : compare (withText 0 8 6 "0.8.6-1") (ofNumbers 0 8 6) = .eq := by decide
  have texts : "0.8.6-1" ≠ (ofNumbers 0 8 6).raw := by decide +kernel
  refine ⟨_, by decide +kernel, order, fun equal => ?_⟩
  obtain ⟨-, -, -, -, -, -, -, agree, -⟩ :=
    order_agrees_with_equality_iff (withText 0 8 6 "0.8.6-1") (ofNumbers 0 8 6) (ofNumbers 0 8 6)
  exact agree.1 (iff_of_true order equal) ⟨rfl, texts⟩

end TargetNet.Version
