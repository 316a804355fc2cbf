import Mathlib.Tactic.Common
import TargetNet.Proofs.Text.Joined
import TargetNet.Yaml.Value

/-!
# Texts on one line

A text is on one line if there is no line feed in it. Texts put together from such texts are on one
line, and so are all numbers.
-/

namespace TargetNet

namespace Text

/-- There is no line feed in a text. -/
def OnOneLine (s : String) : Prop :=
  '\n' ∉ s.toList

instance (s : String) : Decidable (OnOneLine s) :=
  inferInstanceAs (Decidable (¬ _))

/-- Two texts are on one line together if each is by itself. -/
lemma onOneLine_append {s t : String} :
    OnOneLine (s ++ t) ↔ OnOneLine s ∧ OnOneLine t := by
  rw [OnOneLine, OnOneLine, OnOneLine, String.toList_append, List.mem_append, not_or]

lemma onOneLine_ofList {cs : List Char} : OnOneLine (String.ofList cs) ↔ '\n' ∉ cs := by
  rw [OnOneLine, String.toList_ofList]

/-- Texts on one line are on one line with spaces between them. -/
lemma onOneLine_spaced {texts : List String} (each : ∀ s ∈ texts, OnOneLine s) :
    OnOneLine (spaced texts) := by
  induction texts with
  | nil => decide
  | cons s texts ih =>
    obtain ⟨first, rest⟩ := List.forall_mem_cons.1 each
    cases texts with
    | nil =>
      rw [spaced, String.intercalate_singleton]
      exact first
    | cons t texts =>
      rw [spaced, String.intercalate_cons_cons, onOneLine_append, onOneLine_append]
      exact ⟨⟨first, by decide⟩, ih rest⟩

lemma IsWord.onOneLine {s : String} (word : IsWord s.toList) : OnOneLine s := by
  intro mem
  exact absurd (word.solid _ mem) (by decide)

end Text

/-! ## Numbers -/

open Text (OnOneLine)

namespace Decimal

/-- A digit is no white space. -/
lemma isBlank_of_isDigit {c : Char} (digit : isDigit c = true) : Text.isBlank c = false := by
  simp only [isDigit, Bool.and_eq_true, decide_eq_true_eq] at digit
  simp only [Text.isBlank, Bool.or_eq_false_iff, Bool.and_eq_false_iff, decide_eq_false_iff_not,
    beq_eq_false_iff_ne]
  omega

lemma newline_notMem_ofNat (n : Nat) : '\n' ∉ ofNat n :=
  notMem_ofNat (by decide) n

/-- There is no line feed in an integer. -/
lemma newline_notMem_ofInt (n : Int) : '\n' ∉ ofInt n := by
  rw [ofInt]
  split
  · rw [List.mem_cons, not_or]
    exact ⟨by decide, newline_notMem_ofNat _⟩
  · exact newline_notMem_ofNat _

/-- There is no line feed in a decimal number, however it is laid out. -/
lemma newline_notMem_setOut (layout : Layout) (digits : Nat) (power : Int) :
    '\n' ∉ layout.setOut digits power := by
  have plain := newline_notMem_ofNat digits
  rw [Layout.setOut]
  split
  · split
    · simpa using plain
    · split
      · rw [List.mem_append, List.mem_cons, not_or, not_or]
        exact ⟨mt List.mem_of_mem_take plain, by decide, mt List.mem_of_mem_drop plain⟩
      · simpa using plain
  · rw [List.mem_append, List.mem_cons, not_or, not_or]
    refine ⟨?_, by decide, newline_notMem_ofInt _⟩
    split
    · exact List.not_mem_nil
    · rename_i written
      rwa [written] at plain
    · rename_i written
      rw [written] at plain
      simpa using plain

lemma onOneLine_text (n : Nat) : OnOneLine (text n) :=
  Text.onOneLine_ofList.2 (newline_notMem_ofNat n)

lemma onOneLine_intText (n : Int) : OnOneLine (intText n) :=
  Text.onOneLine_ofList.2 (newline_notMem_ofInt n)

end Decimal

/-- The text of a floating-point number is on one line. -/
lemma Yaml.Value.onOneLine_floatText (x : Decimal.Binary64) : OnOneLine (floatText x) := by
  have signed : OnOneLine (if x.isNegative then "-" else "") := by
    split <;> decide
  rw [floatText, Decimal.Layout.render]
  dsimp only
  generalize (if x.isNegative then "-" else "") = sign at signed
  split
  · decide
  · split
    · rw [Text.onOneLine_append]
      exact ⟨signed, by decide⟩
    · split
      · rw [Text.onOneLine_append]
        exact ⟨signed, by decide⟩
      · rw [Text.onOneLine_append, Text.onOneLine_ofList]
        exact ⟨signed, Decimal.newline_notMem_setOut _ _ _⟩

end TargetNet
