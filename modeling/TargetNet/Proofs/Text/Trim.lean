import Mathlib.Data.List.Basic
import Mathlib.Data.List.TakeWhile
import Mathlib.Tactic.Common
import TargetNet.Text.Blank

/-!
# White space taken off a text

What is taken off a text is white space (`exists_trimStart`, `exists_trimEnd`, `exists_trim`), and
white space that is put around a text is taken off again (`trim_surrounded`). What is put behind a
text, and is not white space itself, stays behind it, up to white space between the two
(`exists_trim_append`).
-/

namespace TargetNet.Text

lemma trimStart_append {before : List Char} (blank : ∀ c ∈ before, isBlank c = true)
    (cs : List Char) : trimStart (before ++ cs) = trimStart cs :=
  List.dropWhile_append_of_pos blank

/-- White space at the end is trimmed. -/
lemma trimEnd_append {after : List Char} (blank : ∀ c ∈ after, isBlank c = true)
    (cs : List Char) : trimEnd (cs ++ after) = trimEnd cs := by
  have turned : ∀ c ∈ after.reverse, isBlank c = true :=
    fun c mem => blank c (List.mem_reverse.1 mem)
  rw [trimEnd, List.reverse_append, List.dropWhile_append_of_pos turned, trimEnd]

lemma exists_trimStart (cs : List Char) :
    ∃ before, cs = before ++ trimStart cs ∧ ∀ c ∈ before, isBlank c = true :=
  ⟨cs.takeWhile isBlank, List.takeWhile_append_dropWhile.symm, fun _ => List.mem_takeWhile_imp⟩

/-- What is trimmed at the end is white space. -/
lemma exists_trimEnd (cs : List Char) :
    ∃ after, cs = trimEnd cs ++ after ∧ ∀ c ∈ after, isBlank c = true := by
  obtain ⟨before, split, blank⟩ := exists_trimStart cs.reverse
  refine ⟨before.reverse, ?_, fun c mem => blank c (List.mem_reverse.1 mem)⟩
  have turned := congrArg List.reverse split
  rwa [List.reverse_reverse, List.reverse_append] at turned

/-- What is trimmed on both sides is white space. -/
lemma exists_trim (cs : List Char) :
    ∃ before after, cs = before ++ trim cs ++ after ∧ (∀ c ∈ before, isBlank c = true) ∧
      ∀ c ∈ after, isBlank c = true := by
  obtain ⟨before, start, blank⟩ := exists_trimStart cs
  obtain ⟨after, rest, blank'⟩ := exists_trimEnd (trimStart cs)
  refine ⟨before, after, ?_, blank, blank'⟩
  rw [List.append_assoc, trim, ← rest]
  exact start

/-- White space around a text does not matter to what is left of it. -/
lemma trim_surrounded {before after : List Char} (blank : ∀ c ∈ before, isBlank c = true)
    (blank' : ∀ c ∈ after, isBlank c = true) (cs : List Char) :
    trim (before ++ cs ++ after) = trim cs := by
  rw [trim, List.append_assoc, trimStart_append blank, trim]
  cases rest : trimStart cs with
  | nil =>
    have : trimStart (cs ++ after) = [] := by
      rw [trimStart_append (List.dropWhile_eq_nil_iff.1 rest)]
      exact List.dropWhile_eq_nil_iff.2 blank'
    rw [this]
  | cons c more =>
    have : trimStart (cs ++ after) = (c :: more) ++ after := by
      rw [trimStart, List.dropWhile_append, ← trimStart, rest]
      rfl
    rw [this, trimEnd_append blank']

/-- Nothing is left of a text without its white space exactly if it has nothing else. -/
lemma trim_eq_nil_iff {cs : List Char} : trim cs = [] ↔ ∀ c ∈ cs, isBlank c = true := by
  constructor
  · intro nothing
    obtain ⟨before, after, split, blank, blank'⟩ := exists_trim cs
    rw [nothing, List.append_nil] at split
    rw [split]
    exact List.forall_mem_append.2 ⟨blank, blank'⟩
  · intro blank
    have nothing := trim_surrounded blank (List.forall_mem_nil _) []
    rwa [List.append_nil, List.append_nil] at nothing

/-- A text without white space is kept as it is. -/
lemma trim_of_solid {cs : List Char} (solid : ∀ c ∈ cs, isBlank c = false) : trim cs = cs := by
  have nothing {part : List Char} (blank : ∀ c ∈ part, isBlank c = true) (sub : part ⊆ cs) :
      part = [] := by
    rw [List.eq_nil_iff_forall_not_mem]
    intro c mem
    exact Bool.false_ne_true ((solid c (sub mem)).symm.trans (blank c mem))
  obtain ⟨before, after, split, blank, blank'⟩ := exists_trim cs
  have first : before = [] := nothing blank (by rw [split]; simp)
  have last : after = [] := nothing blank' (by rw [split]; simp)
  rw [first, last, List.nil_append, List.append_nil] at split
  exact split.symm

lemma trimString_eq_empty_iff {s : String} : trimString s = "" ↔ allBlank s = true := by
  rw [trimString, allBlank, List.all_eq_true, ← trim_eq_nil_iff]
  exact String.ofList_eq_empty_iff

/-! ## Texts that begin with something else -/

section

variable {c : Char}

lemma trimStart_cons (solid : isBlank c = false) (cs : List Char) :
    trimStart (c :: cs) = c :: cs :=
  List.dropWhile_cons_of_neg (Bool.eq_false_iff.1 solid)

/-- A first character that is no white space is not trimmed at the end. -/
lemma exists_trimEnd_cons (solid : isBlank c = false) (cs : List Char) :
    ∃ kept, trimEnd (c :: cs) = c :: kept ∧ kept <+: cs := by
  obtain ⟨after, split, blank⟩ := exists_trimEnd (c :: cs)
  cases cut : trimEnd (c :: cs) with
  | nil =>
    rw [cut, List.nil_append] at split
    have := blank c (split ▸ List.mem_cons_self)
    rw [solid] at this
    cases this
  | cons d kept =>
    rw [cut, List.cons_append] at split
    obtain ⟨rfl, rest⟩ := List.cons.inj split
    exact ⟨kept, rfl, after, rest.symm⟩

/-- A first character that is no white space stays the first one. -/
lemma head?_trim_cons (solid : isBlank c = false) (cs : List Char) :
    (trim (c :: cs)).head? = some c := by
  obtain ⟨kept, cut, -⟩ := exists_trimEnd_cons solid cs
  rw [trim, trimStart_cons solid, cut]
  rfl

/-- Nothing before a character that is no white space is trimmed at the end. -/
lemma trimEnd_append_cons (solid : isBlank c = false) (cs rest : List Char) :
    trimEnd (cs ++ c :: rest) = cs ++ trimEnd (c :: rest) := by
  have kept : ((c :: rest).reverse.dropWhile isBlank).isEmpty = false := by
    rw [List.isEmpty_eq_false_iff, Ne, List.dropWhile_eq_nil_iff]
    intro blank
    have := blank c (List.mem_reverse.2 List.mem_cons_self)
    rw [solid] at this
    cases this
  rw [trimEnd, List.reverse_append, List.dropWhile_append, if_neg (Bool.eq_false_iff.1 kept),
    List.reverse_append, List.reverse_reverse, trimEnd]

/-- What stands behind a text, and does not begin with white space, is cut at its end only. -/
lemma exists_trim_append (solid : isBlank c = false) (cs rest : List Char) :
    ∃ gap kept, trim (cs ++ c :: rest) = trim cs ++ (gap ++ c :: kept) ∧
      (∀ g ∈ gap, isBlank g = true) ∧ kept <+: rest := by
  obtain ⟨kept, cut, isPrefix⟩ := exists_trimEnd_cons solid rest
  cases start : trimStart cs with
  | nil =>
    refine ⟨[], kept, ?_, List.forall_mem_nil _, isPrefix⟩
    rw [trim, trimStart_append (List.dropWhile_eq_nil_iff.1 start), trimStart_cons solid, cut,
      trim, start]
    rfl
  | cons d more =>
    obtain ⟨gap, body, blank⟩ := exists_trimEnd (d :: more)
    refine ⟨gap, kept, ?_, blank, isPrefix⟩
    have started : trimStart (cs ++ c :: rest) = (d :: more) ++ c :: rest := by
      rw [trimStart, List.dropWhile_append, ← trimStart, start]
      rfl
    rw [trim, started, trimEnd_append_cons solid, cut, ← List.append_assoc, trim, start, ← body]

end

end TargetNet.Text
