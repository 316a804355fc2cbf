import Mathlib.Data.List.Basic
import Mathlib.Data.List.Induction
import Mathlib.Data.List.TakeWhile
import Mathlib.Data.Nat.Digits.Defs
import Mathlib.Tactic.Common
import Mathlib.Tactic.Ring
import TargetNet.Package.Probe
import TargetNet.Proofs.Text.OneLine
import TargetNet.Proofs.Text.Trim
import TargetNet.Proofs.Version
import TargetNet.Proofs.Yaml.Reading

/-!
# What the text of a version is reduced to

`ReducesTo` says which digits and dots count in the text of a version: the longest run of them that the
text begins with, once the white space around it and all up to its first colon are gone, and without
dots at its end. The pieces between the dots are the numbers of the version, and nothing else in the
text is (`Version.parse_is_reduction`). A revision is never cut off for itself by this description: its
hyphen ends the run of digits and dots anyway (`takeWhile_withoutRevision`).
-/

namespace TargetNet.Version

/-- What is left of a text without all up to its first colon, if it has one. -/
inductive DropsEpoch : List Char → List Char → Prop where
  | none {cs : List Char} :
    ':' ∉ cs →
    DropsEpoch cs cs
  | some {epoch rest : List Char} :
    ':' ∉ epoch →
    DropsEpoch (epoch ++ ':' :: rest) rest

/-- A text of digits and dots. -/
def IsNumeric (cs : List Char) : Prop :=
  ∀ c ∈ cs, Decimal.isDigit c = true ∨ c = '.'

/-- The longest text of digits and dots that a text begins with. -/
structure IsNumericPrefix (cs run : List Char) : Prop where
  isPrefix : run <+: cs
  numeric : IsNumeric run
  longest : ∀ other, other <+: cs → IsNumeric other → other.length ≤ run.length

/-- The digits and dots that count in the text of a version. -/
def ReducesTo (raw : String) (digits : List Char) : Prop :=
  ∃ upstream dots, DropsEpoch (Text.trim raw.toList) upstream ∧
    IsNumericPrefix upstream (digits ++ List.replicate dots '.') ∧ digits.getLast? ≠ some '.'

/-- The number that digits spell in base ten. No digits spell zero. -/
def valueOf (digits : List Char) : Nat :=
  Nat.ofDigits 10 (digits.reverse.map fun c => c.toNat - '0'.toNat)

/-- The piece at a place between dots, empty if there are not so many. -/
def pieceAt (digits : List Char) (place : Nat) : List Char :=
  ((digits.splitOn '.')[place]?).getD []

/-- The numbers of a version, if there are any in its text. -/
def numbers? (raw : String) : Option (UInt64 × UInt64 × UInt64) :=
  (parse raw).toOption.map fun version => (version.major, version.minor, version.micro)

/-! ## The epoch -/

/-- What does not occur is different from all that does. -/
lemma bne_of_notMem {a : Char} {cs : List Char} (free : a ∉ cs) : ∀ c ∈ cs, (c != a) = true := by
  intro c mem
  rw [bne_iff_ne]
  rintro rfl
  exact free mem

lemma withoutEpoch_of_notMem {cs : List Char} (free : ':' ∉ cs) : withoutEpoch cs = cs := by
  rw [withoutEpoch, List.dropWhile_eq_nil_iff.2 (bne_of_notMem free)]

/-- The epoch is all before the first colon. -/
lemma withoutEpoch_append {epoch : List Char} (free : ':' ∉ epoch) (rest : List Char) :
    withoutEpoch (epoch ++ ':' :: rest) = rest := by
  rw [withoutEpoch, List.dropWhile_append_of_pos (bne_of_notMem free)]
  rfl

/-- What is left without the epoch is what is computed. -/
lemma dropsEpoch_iff {cs rest : List Char} : DropsEpoch cs rest ↔ rest = withoutEpoch cs := by
  constructor
  · intro drops
    cases drops with
    | none free => exact (withoutEpoch_of_notMem free).symm
    | some free => exact (withoutEpoch_append free rest).symm
  · rintro rfl
    by_cases mem : ':' ∈ cs
    · obtain ⟨epoch, rest, rfl, free⟩ := List.eq_append_cons_of_mem mem
      rw [withoutEpoch_append free]
      exact .some free
    · rw [withoutEpoch_of_notMem mem]
      exact .none mem

/-- Without a colon of its own, what stands behind a text is kept. -/
lemma withoutEpoch_append_of_notMem {tail : List Char} (free : ':' ∉ tail) (cs : List Char) :
    withoutEpoch (cs ++ tail) = withoutEpoch cs ++ tail := by
  by_cases mem : ':' ∈ cs
  · obtain ⟨epoch, rest, rfl, free'⟩ := List.eq_append_cons_of_mem mem
    rw [List.append_assoc, List.cons_append, withoutEpoch_append free', withoutEpoch_append free']
  · have free' : ':' ∉ cs ++ tail := by
      rw [List.mem_append, not_or]
      exact ⟨mem, free⟩
    rw [withoutEpoch_of_notMem mem, withoutEpoch_of_notMem free']

/-! ## The run of digits and dots -/

lemma isNumeric_iff {c : Char} : isNumeric c = true ↔ Decimal.isDigit c = true ∨ c = '.' := by
  rw [isNumeric, Bool.or_eq_true, beq_iff_eq]

/-- White space is neither. -/
lemma isNumeric_of_isBlank {c : Char} (blank : Text.isBlank c = true) : isNumeric c = false := by
  rw [Bool.eq_false_iff, Ne, isNumeric_iff]
  rintro (digit | rfl)
  · rw [Decimal.isBlank_of_isDigit digit] at blank
    cases blank
  · exact absurd blank (by decide)

/-- A run ends where something else begins. -/
lemma takeWhile_append_of_head {p : Char → Bool} {rest : List Char}
    (other : ∀ c ∈ rest.head?, p c = false) (cs : List Char) :
    (cs ++ rest).takeWhile p = cs.takeWhile p := by
  induction cs with
  | nil =>
    cases rest with
    | nil => rfl
    | cons c rest => exact List.takeWhile_cons_of_neg (Bool.eq_false_iff.1 (other c rfl))
  | cons c cs ih => rw [List.cons_append, List.takeWhile_cons, List.takeWhile_cons, ih]

/-- A revision is behind a hyphen, which is neither a digit nor a dot. -/
lemma takeWhile_withoutRevision (cs : List Char) :
    (withoutRevision cs).takeWhile isNumeric = cs.takeWhile isNumeric := by
  by_cases mem : '-' ∈ cs.reverse
  · obtain ⟨revision, upstream, split, free⟩ := List.eq_append_cons_of_mem mem
    have turned : cs = upstream.reverse ++ '-' :: revision.reverse := by
      rw [← List.reverse_reverse cs, split]
      simp
    have cut : withoutRevision cs = upstream.reverse := by
      rw [withoutRevision, split, List.dropWhile_append_of_pos (bne_of_notMem free)]
      rfl
    rw [cut, turned, takeWhile_append_of_head]
    rintro c ⟨⟩
    rfl
  · rw [withoutRevision, List.dropWhile_eq_nil_iff.2 (bne_of_notMem mem)]

/-- The longest beginning of digits and dots is what is taken from a text. -/
lemma isNumericPrefix_iff {cs run : List Char} :
    IsNumericPrefix cs run ↔ run = cs.takeWhile isNumeric := by
  have taken : IsNumericPrefix cs (cs.takeWhile isNumeric) := by
    refine ⟨List.takeWhile_prefix _, fun c mem => isNumeric_iff.1 (List.mem_takeWhile_imp mem), ?_⟩
    rintro other ⟨rest, rfl⟩ numeric
    rw [List.takeWhile_append_of_pos fun c mem => isNumeric_iff.2 (numeric c mem),
      List.length_append]
    omega
  constructor
  · intro run'
    have shorter := run'.longest _ taken.isPrefix taken.numeric
    have longer := taken.longest _ run'.isPrefix run'.numeric
    exact (List.prefix_of_prefix_length_le run'.isPrefix taken.isPrefix longer).eq_of_length
      (Nat.le_antisymm longer shorter)
  · rintro rfl
    exact taken

/-- Dots at the end are taken off, and nothing else. -/
lemma eq_of_dots {digits : List Char} (last : digits.getLast? ≠ some '.') (dots : Nat) :
    ((digits ++ List.replicate dots '.').reverse.dropWhile (· == '.')).reverse = digits := by
  have passed : ∀ c ∈ List.replicate dots '.', (c == '.') = true := by
    intro c mem
    rw [beq_iff_eq]
    exact List.eq_of_mem_replicate mem
  have kept : digits.reverse.dropWhile (· == '.') = digits.reverse := by
    cases turned : digits.reverse with
    | nil => rfl
    | cons c rest =>
      apply List.dropWhile_cons_of_neg
      rw [beq_iff_eq]
      rintro rfl
      rw [← List.head?_reverse, turned] at last
      exact last rfl
  rw [List.reverse_append, List.reverse_replicate, List.dropWhile_append_of_pos passed, kept,
    List.reverse_reverse]

/-- Every text is one that does not end in a dot, and dots. -/
lemma exists_dots (run : List Char) :
    ∃ digits dots, run = digits ++ List.replicate dots '.' ∧ digits.getLast? ≠ some '.' := by
  induction run using List.reverseRecOn with
  | nil => exact ⟨[], 0, rfl, by rintro ⟨⟩⟩
  | append_singleton run c ih =>
    by_cases dot : c = '.'
    · obtain ⟨digits, dots, rfl, last⟩ := ih
      refine ⟨digits, dots + 1, ?_, last⟩
      rw [dot, List.append_assoc, ← List.replicate_succ']
    · refine ⟨run ++ [c], 0, (List.append_nil _).symm, ?_⟩
      rw [List.getLast?_concat]
      rintro ⟨⟩
      exact dot rfl

/-- The description fits what is computed, and nothing else. -/
lemma reducesTo_iff {raw : String} {digits : List Char} :
    ReducesTo raw digits ↔
      digits = numericPart (withoutRevision (withoutEpoch (Text.trim raw.toList))) := by
  rw [numericPart, takeWhile_withoutRevision]
  constructor
  · rintro ⟨upstream, dots, drops, isPrefix, last⟩
    rw [← dropsEpoch_iff.1 drops, ← isNumericPrefix_iff.1 isPrefix, eq_of_dots last]
  · intro cut
    obtain ⟨digits', dots, split, last⟩ :=
      exists_dots ((withoutEpoch (Text.trim raw.toList)).takeWhile isNumeric)
    rw [split, eq_of_dots last] at cut
    subst cut
    exact ⟨_, dots, dropsEpoch_iff.2 rfl, isNumericPrefix_iff.2 split.symm, last⟩

/-! ## The pieces -/

/-- The pieces of a version are what dots split it into. -/
lemma dotPieces_eq (cs : List Char) : dotPieces cs = cs.splitOn '.' := by
  induction cs with
  | nil => rfl
  | cons c cs ih =>
    rw [dotPieces, List.splitOn_cons_eq_if_modifyHead, ih]
    by_cases dot : c = '.'
    · rw [if_pos dot, if_pos (beq_iff_eq.2 dot)]
    · rw [if_neg dot, if_neg (mt beq_iff_eq.1 dot)]
      obtain ⟨piece, more, pieces⟩ := List.exists_cons_of_ne_nil (List.splitOn_ne_nil '.' cs)
      rw [pieces]
      rfl

/-- The pieces consist of the characters of the text, but for the dots. -/
lemma mem_of_mem_splitOn {cs piece : List Char} (mem : piece ∈ cs.splitOn '.') :
    ∀ c ∈ piece, c ∈ cs ∧ c ≠ '.' := by
  induction cs generalizing piece with
  | nil =>
    rw [List.splitOn_nil, List.mem_singleton] at mem
    rw [mem]
    exact List.forall_mem_nil _
  | cons d cs ih =>
    have later {piece : List Char} (mem : piece ∈ cs.splitOn '.') :
        ∀ c ∈ piece, c ∈ d :: cs ∧ c ≠ '.' :=
      fun c there => (ih mem c there).imp_left (List.mem_cons_of_mem d)
    rw [List.splitOn_cons_eq_if_modifyHead] at mem
    split at mem
    · rcases List.mem_cons.1 mem with rfl | mem
      · exact List.forall_mem_nil _
      · exact later mem
    · rename_i other
      obtain ⟨first, more, pieces⟩ := List.exists_cons_of_ne_nil (List.splitOn_ne_nil '.' cs)
      rw [pieces] at mem later
      rcases List.mem_cons.1 mem with rfl | mem
      · exact List.forall_mem_cons.2
          ⟨⟨List.mem_cons_self, mt beq_iff_eq.2 other⟩, later List.mem_cons_self⟩
      · exact later (List.mem_cons_of_mem _ mem)

/-- What a version is reduced to is made of digits and dots. -/
lemma ReducesTo.numeric {raw : String} {digits : List Char} (reduces : ReducesTo raw digits) :
    IsNumeric digits := by
  obtain ⟨_, _, -, run, -⟩ := reduces
  exact fun c mem => run.numeric c (List.mem_append_left _ mem)

/-- The pieces of digits and dots are made of digits. -/
lemma isDigit_of_mem_pieceAt {digits : List Char} (numeric : IsNumeric digits) (place : Nat) :
    ∀ c ∈ pieceAt digits place, Decimal.isDigit c = true := by
  intro c mem
  rw [pieceAt] at mem
  cases piece : (digits.splitOn '.')[place]? with
  | none =>
    rw [piece] at mem
    cases mem
  | some found =>
    rw [piece] at mem
    obtain ⟨there, other⟩ := mem_of_mem_splitOn (List.mem_of_getElem? piece) c mem
    exact (numeric c there).resolve_right other

/-! ## The numbers -/

/-- A digit is worth its distance from zero. -/
lemma digitValue?_of_isDigit {c : Char} (digit : Decimal.isDigit c = true) :
    Decimal.digitValue? 10 c = some (c.toNat - '0'.toNat) := by
  rw [Decimal.isDigit, Bool.and_eq_true] at digit
  have low : c.toNat - 48 < 10 := by
    have := of_decide_eq_true digit.1
    have := of_decide_eq_true digit.2
    omega
  rw [Decimal.digitValue?]
  simp only [digit.1, digit.2, Bool.and_self, if_true]
  exact Option.filter_eq_some_iff.2 ⟨rfl, decide_eq_true low⟩

/-- The first digit counts for a power of ten. -/
lemma valueOf_cons (c : Char) (digits : List Char) :
    valueOf (c :: digits) = (c.toNat - '0'.toNat) * 10 ^ digits.length + valueOf digits := by
  rw [valueOf, List.reverse_cons, List.map_append, Nat.ofDigits_append, valueOf,
    List.map_singleton, Nat.ofDigits_singleton, List.length_map, List.length_reverse]
  ring

/-- Digits are read as the number that they spell. -/
lemma valueFrom?_of_isDigit {digits : List Char}
    (all : ∀ c ∈ digits, Decimal.isDigit c = true) (value : Nat) :
    Decimal.valueFrom? 10 value digits =
      some (value * 10 ^ digits.length + valueOf digits) := by
  induction digits generalizing value with
  | nil => simp [Decimal.valueFrom?, valueOf]
  | cons c digits ih =>
    obtain ⟨digit, all⟩ := List.forall_mem_cons.1 all
    rw [Decimal.valueFrom?, digitValue?_of_isDigit digit, Option.bind_some, ih all, valueOf_cons,
      List.length_cons]
    congr 1
    ring

section

variable {part : Part} {raw : String} {digits : List Char} {n : UInt64}

/-- A number of 64 bits is read as what its digits spell. -/
lemma number_eq_ok_iff (all : ∀ c ∈ digits, Decimal.isDigit c = true) (some : digits ≠ []) :
    number part raw digits = .ok n ↔ n.toNat = valueOf digits := by
  have read : Decimal.value? 10 digits = .some (valueOf digits) := by
    rw [Decimal.value?, List.isEmpty_eq_false_iff.2 some, valueFrom?_of_isDigit all]
    simp
  rw [number, read]
  dsimp only
  split
  · rename_i fits
    rw [Except.ok.injEq, ← UInt64.toNat_inj, UInt64.toNat_ofNatLT, eq_comm]
  · rename_i tooLarge
    refine iff_of_false (by rintro ⟨⟩) fun same => tooLarge ?_
    rw [← same]
    exact n.toNat_lt_size

/-- A number that must be there needs a digit. -/
lemma required_eq_ok_iff (all : ∀ c ∈ digits, Decimal.isDigit c = true) :
    required part raw digits = .ok n ↔ digits ≠ [] ∧ n.toNat = valueOf digits := by
  rw [required]
  by_cases empty : digits = []
  · rw [if_pos empty]
    exact iff_of_false (by rintro ⟨⟩) fun there => there.1 empty
  · rw [if_neg empty, number_eq_ok_iff all empty, and_iff_right empty]

/-- A number that may be missing is zero then. -/
lemma optional_eq_ok_iff {piece? : Option (List Char)}
    (all : ∀ c ∈ piece?.getD [], Decimal.isDigit c = true) :
    optional part raw piece? = .ok n ↔ n.toNat = valueOf (piece?.getD []) := by
  have zero : (Except.ok 0 : Except ParseError UInt64) = .ok n ↔ n.toNat = valueOf [] := by
    rw [Except.ok.injEq, ← UInt64.toNat_inj, eq_comm]
    rfl
  cases piece? with
  | none => exact zero
  | some piece =>
    rw [optional, Option.getD_some]
    by_cases empty : piece = []
    · rw [if_pos empty, empty]
      exact zero
    · rw [if_neg empty]
      exact number_eq_ok_iff all empty

/-- A text is a version if its first three pieces spell the numbers of this version. -/
lemma parse_eq_ok_iff (reduces : ReducesTo raw digits) {version : Version} :
    parse raw = .ok version ↔ pieceAt digits 0 ≠ [] ∧
      version.major.toNat = valueOf (pieceAt digits 0) ∧
      version.minor.toNat = valueOf (pieceAt digits 1) ∧
      version.micro.toNat = valueOf (pieceAt digits 2) ∧ version.raw = raw := by
  have isDigit := isDigit_of_mem_pieceAt reduces.numeric
  have first : (digits.splitOn '.').head?.getD [] = pieceAt digits 0 := by
    rw [pieceAt, List.head?_eq_getElem?]
  rw [parse, ← reducesTo_iff.1 reduces, dotPieces_eq, first]
  simp only [Yaml.bind_eq_ok_iff, required_eq_ok_iff (isDigit 0), optional_eq_ok_iff (isDigit 1),
    optional_eq_ok_iff (isDigit 2)]
  constructor
  · rintro ⟨major, ⟨some, first⟩, minor, second, micro, third, made⟩
    cases made
    exact ⟨some, first, second, third, rfl⟩
  · rintro ⟨some, first, second, third, same⟩
    refine ⟨_, ⟨some, first⟩, _, second, _, third, congrArg Except.ok ?_⟩
    exact eq_of_numbers rfl rfl rfl same.symm

/-- A text has a version exactly if there is a first number and none is too large. -/
lemma exists_version_iff (reduces : ReducesTo raw digits) :
    (∃ version, parse raw = .ok version) ↔ pieceAt digits 0 ≠ [] ∧
      ∀ place < 3, pieceAt digits place ≠ [] → valueOf (pieceAt digits place) < 2 ^ 64 := by
  constructor
  · rintro ⟨version, read⟩
    obtain ⟨some, first, second, third, -⟩ := (parse_eq_ok_iff reduces).1 read
    refine ⟨some, fun place low _ => ?_⟩
    match place with
    | 0 => exact first ▸ version.major.toNat_lt
    | 1 => exact second ▸ version.minor.toNat_lt
    | 2 => exact third ▸ version.micro.toNat_lt
  · rintro ⟨some, fit⟩
    have fits (place : Nat) (low : place < 3) : valueOf (pieceAt digits place) < 2 ^ 64 := by
      by_cases empty : pieceAt digits place = []
      · rw [empty]
        decide
      · exact fit place low empty
    refine ⟨withText (.ofNat (valueOf (pieceAt digits 0))) (.ofNat (valueOf (pieceAt digits 1)))
      (.ofNat (valueOf (pieceAt digits 2))) raw, (parse_eq_ok_iff reduces).2 ⟨some, ?_, ?_, ?_, rfl⟩⟩
    · exact UInt64.toNat_ofNat_of_lt' (fits 0 (by decide))
    · exact UInt64.toNat_ofNat_of_lt' (fits 1 (by decide))
    · exact UInt64.toNat_ofNat_of_lt' (fits 2 (by decide))

/-! ## What makes no difference -/

/-- The numbers of a text are those that its first three pieces spell. -/
lemma numbers?_eq_some_iff (reduces : ReducesTo raw digits) {major minor micro : UInt64} :
    numbers? raw = some (major, minor, micro) ↔ pieceAt digits 0 ≠ [] ∧
      major.toNat = valueOf (pieceAt digits 0) ∧ minor.toNat = valueOf (pieceAt digits 1) ∧
      micro.toNat = valueOf (pieceAt digits 2) := by
  constructor
  · intro found
    rw [numbers?] at found
    cases parsed : parse raw with
    | error reason =>
      rw [parsed] at found
      cases found
    | ok version =>
      rw [parsed] at found
      cases found
      obtain ⟨some, first, second, third, -⟩ := (parse_eq_ok_iff reduces).1 parsed
      exact ⟨some, first, second, third⟩
  · rintro ⟨some, first, second, third⟩
    have parsed : parse raw = .ok (withText major minor micro raw) :=
      (parse_eq_ok_iff reduces).2 ⟨some, first, second, third, rfl⟩
    rw [numbers?, parsed]
    rfl

/-- Only the first three pieces count. -/
lemma numbers?_congr {raw' : String} {digits' : List Char} (reduces : ReducesTo raw digits)
    (reduces' : ReducesTo raw' digits')
    (same : ∀ place < 3, pieceAt digits' place = pieceAt digits place) :
    numbers? raw' = numbers? raw := by
  apply Option.ext
  rintro ⟨major, minor, micro⟩
  rw [numbers?_eq_some_iff reduces, numbers?_eq_some_iff reduces', same 0 (by decide),
    same 1 (by decide), same 2 (by decide)]

/-- What is put behind the text of a version does not count, unless it goes on with the digits and dots
or has a colon in it. -/
lemma ReducesTo.append {c : Char} {rest : List Char} (reduces : ReducesTo raw digits)
    (other : isNumeric c = false) (solid : Text.isBlank c = false) (free : ':' ∉ c :: rest) :
    ReducesTo (raw ++ String.ofList (c :: rest)) digits := by
  obtain ⟨gap, kept, trimmed, blank, isPrefix⟩ := Text.exists_trim_append solid raw.toList rest
  have free' : ':' ∉ gap ++ c :: kept := by
    rw [List.mem_append, List.mem_cons, not_or]
    refine ⟨fun mem => absurd (blank _ mem) (by decide), fun mem => free ?_⟩
    exact List.mem_cons.2 (mem.imp_right fun mem => isPrefix.subset mem)
  have ends : ∀ d ∈ (gap ++ c :: kept).head?, isNumeric d = false := by
    cases gap with
    | nil =>
      rintro d ⟨⟩
      exact other
    | cons g gap =>
      rintro d ⟨⟩
      exact isNumeric_of_isBlank (blank _ List.mem_cons_self)
  rw [reducesTo_iff, numericPart, takeWhile_withoutRevision] at reduces ⊢
  rw [String.toList_append, String.toList_ofList, trimmed, withoutEpoch_append_of_notMem free',
    takeWhile_append_of_head ends]
  exact reduces

end

/-- The text of a version is read as it is described: there is one way to reduce it to digits and dots,
and it has a version exactly if the first piece between the dots is there and none of the first three
spells a number of more than 64 bits. These numbers make the version, a missing one being zero. All
failures are of the kind that a probe may have. So texts with the same first three pieces have the
same numbers, and neither a revision nor any other suffix counts. -/
theorem parse_is_reduction (raw : String) :
    ∃ digits, ReducesTo raw digits ∧ (∀ other, ReducesTo raw other → other = digits) ∧
      ((∃ version, parse raw = .ok version) ↔ pieceAt digits 0 ≠ [] ∧
        ∀ place < 3, pieceAt digits place ≠ [] → valueOf (pieceAt digits place) < 2 ^ 64) ∧
      (∀ version, parse raw = .ok version →
        version.major.toNat = valueOf (pieceAt digits 0) ∧
        version.minor.toNat = valueOf (pieceAt digits 1) ∧
        version.micro.toNat = valueOf (pieceAt digits 2) ∧
        version.semantic = min (valueOf (pieceAt digits 0)) 999 * 1000000 +
          min (valueOf (pieceAt digits 1)) 999 * 1000 + min (valueOf (pieceAt digits 2)) 999 ∧
        version.raw = raw) ∧
      (∀ error, (Package.versionOf raw).mapError Error.probe = .error error →
        error.kind = .probeUnavailable) ∧
      (∀ raw' digits', ReducesTo raw' digits' →
        (∀ place < 3, pieceAt digits' place = pieceAt digits place) →
        numbers? raw' = numbers? raw) ∧
      (∀ c rest, isNumeric c = false → Text.isBlank c = false → ':' ∉ c :: rest →
        numbers? (raw ++ String.ofList (c :: rest)) = numbers? raw) ∧
      (∀ revision, ':' ∉ revision → numbers? (raw ++ String.ofList ('-' :: revision)) =
        numbers? raw) := by
  have reduces : ReducesTo raw _ := reducesTo_iff.2 rfl
  have suffix (c : Char) (rest : List Char) (other : isNumeric c = false)
      (solid : Text.isBlank c = false) (free : ':' ∉ c :: rest) :
      numbers? (raw ++ String.ofList (c :: rest)) = numbers? raw :=
    numbers?_congr reduces (reduces.append other solid free) fun _ _ => rfl
  refine ⟨_, reduces, fun other reduces' => reducesTo_iff.1 reduces', exists_version_iff reduces,
    fun version read => ?_, fun error failed => ?_, fun raw' digits' => numbers?_congr reduces,
    suffix, fun revision free => ?_⟩
  · obtain ⟨-, first, second, third, same⟩ := (parse_eq_ok_iff reduces).1 read
    rw [version.packed, pack, first, second, third]
    exact ⟨rfl, rfl, rfl, rfl, same⟩
  · cases read : Package.versionOf raw with
    | error reason =>
      rw [read] at failed
      cases failed
      rfl
    | ok version =>
      rw [read] at failed
      cases failed
  · apply suffix '-' revision rfl rfl
    rw [List.mem_cons, not_or]
    exact ⟨by decide, free⟩

example : numbers? " 1:0.7.47.2ubuntu4.1-3\n" = some (0, 7, 47) := by
  decide +kernel

end TargetNet.Version
