import Mathlib.Tactic.Common
import TargetNet.Proofs.Version

/-!
# Packed versions

The packed number of a version orders versions by their numbers as long as none is cut off. Of two
versions above the limit in the number that decides between them, the packed numbers show only what
comes behind it, and then the newer version can have the smaller one (`Overtakes`). This is the only
way in which the packed number goes down (`semantic_is_monotonic_iff`).
-/

namespace TargetNet.Version

/-- The share of one number in the packed one. -/
def share (n : UInt64) : Nat :=
  min n.toNat semanticLimit

/-- The first version has the greater packed number although the second is newer: the number that
decides between them is cut off in both, and what comes behind it is greater in the first. -/
inductive Overtakes (a b : Version) : Prop where
  | major :
    semanticLimit ≤ a.major.toNat →
    a.major < b.major →
    share b.minor < share a.minor ∨ share b.minor = share a.minor ∧ share b.micro < share a.micro →
    Overtakes a b
  | minor :
    a.major = b.major →
    semanticLimit ≤ a.minor.toNat →
    a.minor < b.minor →
    share b.micro < share a.micro →
    Overtakes a b

lemma share_le (n : UInt64) : share n ≤ 999 :=
  Nat.min_le_right _ _

/-- A greater number has no smaller share. -/
lemma share_mono {m n : UInt64} (h : m ≤ n) : share m ≤ share n := by
  have := UInt64.le_iff_toNat_le.1 h
  rw [share, share]
  omega

/-- Different numbers have the same share only where they are cut off. -/
lemma share_eq_iff_of_lt {m n : UInt64} (h : m < n) :
    share n = share m ↔ semanticLimit ≤ m.toNat := by
  have := UInt64.lt_iff_toNat_lt.1 h
  rw [share, share]
  omega

/-- The packed number is made of three shares. -/
lemma semantic_eq (v : Version) :
    v.semantic = share v.major * 1000000 + share v.minor * 1000 + share v.micro :=
  v.packed

/-- The packed number fits into 64 bits, whatever the numbers are. -/
lemma semantic_lt_size (v : Version) : v.semantic < UInt64.size := by
  have major := share_le v.major
  have minor := share_le v.minor
  have micro := share_le v.micro
  calc v.semantic ≤ 999 * 1000000 + 999 * 1000 + 999 := by
        rw [semantic_eq]
        omega
    _ < UInt64.size := by decide

variable {a b : Version}

/-- Packed numbers are compared share by share. -/
lemma semantic_lt_iff :
    b.semantic < a.semantic ↔ share b.major < share a.major ∨ share b.major = share a.major ∧
      (share b.minor < share a.minor ∨
        share b.minor = share a.minor ∧ share b.micro < share a.micro) := by
  have minor := share_le a.minor
  have micro := share_le a.micro
  have minor' := share_le b.minor
  have micro' := share_le b.micro
  rw [semantic_eq, semantic_eq]
  omega

/-- A version that is not newer has the greater packed number only by overtaking. -/
lemma semantic_lt_iff_overtakes (notNewer : compare a b ≠ .gt) :
    b.semantic < a.semantic ↔ Overtakes a b := by
  rw [semantic_lt_iff]
  constructor
  · intro greater
    rcases compare_ne_gt_iff.1 notNewer with
      (major | ⟨major, minor | ⟨minor, micro⟩⟩) | ⟨major, minor, micro⟩
    · have := share_mono (UInt64.le_of_lt major)
      obtain ⟨same, behind⟩ := greater.resolve_left (by omega)
      exact .major ((share_eq_iff_of_lt major).1 same) major behind
    · rw [major] at greater
      have := share_mono (UInt64.le_of_lt minor)
      obtain ⟨-, behind⟩ := greater.resolve_left (Nat.lt_irrefl _)
      obtain ⟨same, behind⟩ := behind.resolve_left (by omega)
      exact .minor major ((share_eq_iff_of_lt minor).1 same) minor behind
    · have := share_mono (UInt64.le_of_lt micro)
      rw [major, minor] at greater
      omega
    · rw [major, minor, micro] at greater
      omega
  · intro overtakes
    cases overtakes with
    | major cut major behind => exact .inr ⟨(share_eq_iff_of_lt major).2 cut, behind⟩
    | minor major cut minor behind =>
      exact .inr ⟨by rw [major], .inr ⟨(share_eq_iff_of_lt minor).2 cut, behind⟩⟩

/-- For a version that is not newer than another one, the packed number is not greater either, unless
the first overtakes the second. In particular it is not if the first two numbers of the older version
are below the limit. -/
theorem semantic_is_monotonic_iff (notNewer : compare a b ≠ .gt) :
    (a.semantic ≤ b.semantic ↔ ¬ Overtakes a b) ∧
    (a.major.toNat < 999 → a.minor.toNat < 999 → a.semantic ≤ b.semantic) := by
  have exactly : a.semantic ≤ b.semantic ↔ ¬ Overtakes a b := by
    rw [← semantic_lt_iff_overtakes notNewer, Nat.not_lt]
  refine ⟨exactly, fun major minor => exactly.2 fun overtakes => ?_⟩
  cases overtakes with
  | major cut => exact absurd major (Nat.not_lt.2 cut)
  | minor _ cut => exact absurd minor (Nat.not_lt.2 cut)

/-- The newer version has the smaller packed number, be it read from a text or put together. -/
theorem semantic_is_monotonic_iff_cutOff :
    parse "0.999.999" = .ok (.ofNumbers 0 999 999) ∧
    parse "0.1000.0" = .ok (.ofNumbers 0 1000 0) ∧
    compare (.ofNumbers 0 999 999) (.ofNumbers 0 1000 0) ≠ .gt ∧
    ¬ (ofNumbers 0 999 999).semantic ≤ (ofNumbers 0 1000 0).semantic := by
  have notNewer : compare (.ofNumbers 0 999 999) (.ofNumbers 0 1000 0) ≠ .gt := by
    decide
  refine ⟨by decide +kernel, by decide +kernel, notNewer, fun below => ?_⟩
  exact (semantic_is_monotonic_iff notNewer).1.1 below
    (.minor rfl (by decide) (by decide) (by decide))

end TargetNet.Version
