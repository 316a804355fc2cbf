import TargetNet.Proofs.Version
import TargetNet.Proofs.Version.Reduction

/-!
# Versions printed and read again

A version is printed as its three numbers with dots between them. Such a text has nothing to be left
out: it is reduced to itself (`reducesTo_self`), its pieces are the digits of the numbers
(`splitOn_display`), and digits spell the number that they were written for (`valueOf_ofNat`). So what
is read from it is the version with these numbers, and no other version is printed alike
(`printed_version_is_parsed`).
-/

namespace TargetNet.Version

/-- The digits of the three numbers. -/
def digitRuns (v : Version) : List (List Char) :=
  [Decimal.ofNat v.major.toNat, Decimal.ofNat v.minor.toNat, Decimal.ofNat v.micro.toNat]

/-- Digits spell the number that they were written for. -/
lemma valueOf_ofNat (n : Nat) : valueOf (Decimal.ofNat n) = n := by
  have read := valueFrom?_of_isDigit (Decimal.isDigit_of_mem_ofNat n) 0
  rw [Decimal.valueFrom?_ofNat, Nat.zero_mul, Nat.zero_add] at read
  exact (Option.some.inj read).symm

/-- A text of digits and dots, not ending in a dot, is reduced to itself. -/
lemma reducesTo_self {raw : String} (numeric : IsNumeric raw.toList)
    (last : raw.toList.getLast? ≠ some '.') : ReducesTo raw raw.toList := by
  have solid : ∀ c ∈ raw.toList, Text.isBlank c = false := by
    intro c mem
    rcases numeric c mem with digit | rfl
    · exact Decimal.isBlank_of_isDigit digit
    · rfl
  have free : ':' ∉ raw.toList := by
    intro mem
    rcases numeric _ mem with digit | ⟨⟨⟩⟩
    exact absurd digit (by decide)
  refine ⟨raw.toList, 0, ?_, ?_, last⟩
  · rw [Text.trim_of_solid solid]
    exact .none free
  · rw [List.replicate_zero, List.append_nil]
    exact ⟨List.prefix_rfl, numeric, fun other isPrefix _ => isPrefix.length_le⟩

variable (v : Version)

/-- A printed version is its numbers with dots between them. -/
lemma toList_display : v.display.toList = ['.'].intercalate v.digitRuns := by
  simp [display, dotted, digitRuns, List.intercalate]

/-- The numbers are digits. -/
lemma isDigit_of_mem_digitRuns {run : List Char} (mem : run ∈ v.digitRuns) :
    ∀ c ∈ run, Decimal.isDigit c = true := by
  rw [digitRuns] at mem
  simp only [List.mem_cons, List.not_mem_nil, or_false] at mem
  rcases mem with rfl | rfl | rfl <;> exact Decimal.isDigit_of_mem_ofNat _

/-- Between the dots of a printed version are the digits of its numbers. -/
lemma splitOn_display : v.display.toList.splitOn '.' = v.digitRuns := by
  rw [toList_display]
  refine List.splitOn_intercalate '.' (fun run mem dot => ?_) (List.cons_ne_nil _ _)
  exact absurd (v.isDigit_of_mem_digitRuns mem '.' dot) (by decide)

/-- A printed version is made of digits and dots. -/
lemma isNumeric_display : IsNumeric v.display.toList := by
  intro c mem
  by_cases dot : c = '.'
  · exact .inr dot
  · rw [display, dotted, String.toList_ofList] at mem
    simp only [List.mem_append, List.mem_cons, dot, false_or] at mem
    rcases mem with mem | mem | mem <;> exact .inl (Decimal.isDigit_of_mem_ofNat _ c mem)

/-- A printed version does not end in a dot. -/
lemma getLast?_display : v.display.toList.getLast? ≠ some '.' := by
  intro last
  have ends : v.display.toList.getLast? = (Decimal.ofNat v.micro.toNat).getLast? := by
    rw [display, dotted, String.toList_ofList, List.getLast?_append_of_ne_nil _ (by simp),
      List.getLast?_cons_of_ne_nil (by simp), List.getLast?_append_of_ne_nil _ (by simp),
      List.getLast?_cons_of_ne_nil (Decimal.ofNat_ne_nil _)]
  rw [ends] at last
  exact Decimal.notMem_ofNat rfl _ (List.mem_of_getLast? last)

/-- What is read from a printed version is the version with its numbers. -/
lemma parse_display : parse v.display = .ok (.ofNumbers v.major v.minor v.micro) := by
  have reduces : ReducesTo v.display v.display.toList :=
    reducesTo_self v.isNumeric_display v.getLast?_display
  have pieceAt_eq (place : Nat) : pieceAt v.display.toList place = v.digitRuns[place]?.getD [] := by
    rw [pieceAt, splitOn_display]
  refine (parse_eq_ok_iff reduces).2 ?_
  rw [pieceAt_eq, pieceAt_eq, pieceAt_eq]
  exact ⟨Decimal.ofNat_ne_nil _, (valueOf_ofNat _).symm, (valueOf_ofNat _).symm,
    (valueOf_ofNat _).symm, rfl⟩

/-- Printing a version and reading it again gives the version with the same numbers, whatever text it
was read from itself: the text that is kept is the printed one, the packed number is the same, and
neither of the two is older. Versions are printed alike exactly if they have the same numbers. -/
theorem printed_version_is_parsed :
    let again := ofNumbers v.major v.minor v.micro
    parse v.display = .ok again ∧ again.raw = v.display ∧ again.semantic = v.semantic ∧
      compare again v = .eq ∧ again.isOlderThan v = false ∧ v.isOlderThan again = false ∧
      ∀ other : Version, other.display = v.display ↔ compare other v = .eq := by
  have same {a b : Version} (numbers : a.major = b.major ∧ a.minor = b.minor ∧ a.micro = b.micro) :
      compare a b = .eq := compare_eq_eq_iff.2 numbers
  have notOlder {a b : Version} (equal : compare a b = .eq) : a.isOlderThan b = false := by
    rw [isOlderThan, equal]
    rfl
  refine ⟨v.parse_display, rfl, v.packed.symm, same ⟨rfl, rfl, rfl⟩,
    notOlder (same ⟨rfl, rfl, rfl⟩), notOlder (same ⟨rfl, rfl, rfl⟩),
    fun other => ⟨fun alike => ?_, fun equal => ?_⟩⟩
  · have read := other.parse_display
    rw [alike, parse_display] at read
    obtain ⟨major, minor, micro, -⟩ := Version.mk.inj (Except.ok.inj read)
    exact same ⟨major.symm, minor.symm, micro.symm⟩
  · obtain ⟨major, minor, micro⟩ := compare_eq_eq_iff.1 equal
    rw [display, display, major, minor, micro]

example : parse (ofNumbers 18446744073709551615 0 10).display =
    .ok (.ofNumbers 18446744073709551615 0 10) := by
  decide +kernel

end TargetNet.Version
