import Mathlib.Data.List.Basic
import Mathlib.Tactic.Common
import TargetNet.Text.Blank
import TargetNet.Text.Lines

/-!
# Lines and words of joined texts

A line feed between two texts ends a line, so the lines of the whole are those of the one and of the
other, up to a carriage return before the line feed (`filterMap_lines_append`). White space between two
texts ends a word, so the words of the whole are those of both (`words_append`). Words are never empty
and hold no white space (`IsWord.of_mem_words`).
-/

namespace TargetNet.Text

/-! ## Lines -/

/-- A line without a carriage return at its end. -/
def withoutReturn (line : List Char) : List Char :=
  if line.getLast? = some '\r' then line.dropLast else line

/-- What stands before the last character does not matter to it. -/
lemma withoutReturn_cons {line : List Char} (more : line ≠ []) (c : Char) :
    withoutReturn (c :: line) = c :: withoutReturn line := by
  rw [withoutReturn, withoutReturn, List.getLast?_cons_of_ne_nil more,
    List.dropLast_cons_of_ne_nil more]
  split <;> rfl

/-- A character that ends no line belongs to the first one. -/
lemma lines_cons {c : Char} {rest : List Char} (other : c ≠ '\n')
    (free : ∀ more, c = '\r' → rest ≠ '\n' :: more) :
    lines (c :: rest) = match lines rest with
      | [] => [[c]]
      | line :: more => (c :: line) :: more :=
  lines.eq_4 c rest other free

/-- Without a line feed a text is one line, if it is anything. -/
lemma lines_of_notMem {line : List Char} (single : '\n' ∉ line) (some : line ≠ []) :
    lines line = [line] := by
  induction line with
  | nil => exact absurd rfl some
  | cons c rest ih =>
    obtain ⟨other, single⟩ := not_or.1 (mt List.mem_cons.2 single)
    rw [lines_cons (Ne.symm other)]
    · cases rest with
      | nil => rfl
      | cons d rest => rw [ih single (List.cons_ne_nil _ _)]
    · rintro more - rfl
      exact single List.mem_cons_self

/-- A line feed ends the line before it. -/
lemma lines_append_newline {line : List Char} (single : '\n' ∉ line) (rest : List Char) :
    lines (line ++ '\n' :: rest) = withoutReturn line :: lines rest := by
  induction line with
  | nil => rfl
  | cons c line ih =>
    obtain ⟨other, single⟩ := not_or.1 (mt List.mem_cons.2 single)
    cases line with
    | nil =>
      by_cases returned : c = '\r'
      · subst returned
        rfl
      · have kept : withoutReturn [c] = [c] := by simp [withoutReturn, returned]
        rw [kept]
        exact (lines_cons (Ne.symm other) fun _ is => absurd is returned)
    | cons d line =>
      rw [withoutReturn_cons (List.cons_ne_nil _ _), List.cons_append,
        lines_cons (Ne.symm other), ih single]
      rintro more - same
      rw [List.cons_append] at same
      exact single ((List.cons.inj same).1 ▸ List.mem_cons_self)

/-- What is found line by line in two texts with a line feed between them is what is found in each, if
a carriage return at the end of a line does not matter and nothing is found in an empty line. -/
lemma filterMap_lines_append {α : Type} {find : List Char → Option α} (empty : find [] = none)
    (same : ∀ line, find (withoutReturn line) = find line) (first rest : List Char) :
    (lines (first ++ '\n' :: rest)).filterMap find =
      (lines first).filterMap find ++ (lines rest).filterMap find := by
  -- by the length of the first text, since its lines are taken off one by one
  induction length : first.length using Nat.strongRecOn generalizing first with
  | _ n ih =>
    by_cases single : '\n' ∈ first
    · obtain ⟨line, more, rfl, alone⟩ := List.eq_append_cons_of_mem single
      have shorter : more.length < n := by
        rw [← length, List.length_append, List.length_cons]
        omega
      rw [List.append_assoc, List.cons_append, lines_append_newline alone,
        lines_append_newline alone, List.filterMap_cons, List.filterMap_cons, ih _ shorter more rfl]
      cases find (withoutReturn line) <;> rfl
    · have alone : (lines first).filterMap find = (find first).toList := by
        cases first with
        | nil => rw [empty]; rfl
        | cons c line =>
          rw [lines_of_notMem single (List.cons_ne_nil _ _), List.filterMap_cons]
          cases find (c :: line) <;> rfl
      rw [lines_append_newline single, List.filterMap_cons, same, alone]
      cases find first <;> rfl

/-! ## Words -/

/-- A text that is one word: something, and no white space in it. -/
structure IsWord (cs : List Char) : Prop where
  ne_nil : cs ≠ []
  solid : ∀ c ∈ cs, isBlank c = false

lemma words_go_nil (word : List Char) :
    words.go [] word = if word = [] then [] else [word.reverse] := by
  cases word <;> rfl

/-- White space ends the word that was begun, and other characters belong to it. -/
lemma words_go_cons (c : Char) (rest word : List Char) :
    words.go (c :: rest) word =
      if isBlank c then if word = [] then words rest else word.reverse :: words rest
      else words.go rest (c :: word) := by
  cases word <;> rfl

/-- White space ends a word, wherever it was begun. -/
lemma words_go_append {c : Char} (blank : isBlank c = true) (first rest word : List Char) :
    words.go (first ++ c :: rest) word = words.go first word ++ words rest := by
  induction first generalizing word with
  | nil =>
    rw [List.nil_append, words_go_cons, if_pos blank, words_go_nil]
    split <;> rfl
  | cons d first ih =>
    rw [List.cons_append, words_go_cons, words_go_cons]
    split
    · rw [words, ih, ← words]
      split <;> rfl
    · exact ih _

/-- White space ends the word before it. -/
lemma words_append {c : Char} (blank : isBlank c = true) (first rest : List Char) :
    words (first ++ c :: rest) = words first ++ words rest :=
  words_go_append blank first rest []

/-- Without white space, the word that was begun is the only one. -/
lemma words_go_of_solid {cs word : List Char} (solid : ∀ c ∈ cs, isBlank c = false)
    (begun : word.reverse ++ cs ≠ []) : words.go cs word = [word.reverse ++ cs] := by
  induction cs generalizing word with
  | nil =>
    rw [List.append_nil] at begun ⊢
    rw [words_go_nil, if_neg fun none => begun (congrArg List.reverse none)]
  | cons c cs ih =>
    obtain ⟨solidC, solid⟩ := List.forall_mem_cons.1 solid
    rw [words_go_cons, solidC, if_neg Bool.false_ne_true, ih solid (by simp)]
    simp

lemma IsWord.words {cs : List Char} (word : IsWord cs) : words cs = [cs] :=
  words_go_of_solid word.solid word.ne_nil

/-- What was begun and has no white space in it is a word. -/
lemma IsWord.of_begun {begun : List Char} (solid : ∀ c ∈ begun, isBlank c = false)
    (some : begun ≠ []) : IsWord begun.reverse where
  ne_nil none := some (List.reverse_eq_nil_iff.1 none)
  solid c mem := solid c (List.mem_reverse.1 mem)

/-- All that is found is words. -/
lemma isWord_of_mem_go {cs begun word : List Char} (solid : ∀ c ∈ begun, isBlank c = false)
    (mem : word ∈ words.go cs begun) : IsWord word := by
  induction cs generalizing begun with
  | nil =>
    rw [words_go_nil] at mem
    split at mem
    · cases mem
    · exact List.mem_singleton.1 mem ▸ .of_begun solid ‹_›
  | cons c cs ih =>
    rw [words_go_cons] at mem
    split at mem
    · split at mem
      · exact ih (List.forall_mem_nil _) mem
      · rcases List.mem_cons.1 mem with rfl | mem
        · exact .of_begun solid ‹_›
        · exact ih (List.forall_mem_nil _) mem
    · rename_i notBlank
      apply ih _ mem
      rw [List.forall_mem_cons]
      exact ⟨Bool.eq_false_iff.2 notBlank, solid⟩

lemma IsWord.of_mem_words {cs word : List Char} (mem : word ∈ Text.words cs) : IsWord word :=
  isWord_of_mem_go (List.forall_mem_nil _) mem

/-- A word with more behind it, but no white space, is a word. -/
lemma IsWord.append {cs ds : List Char} (word : IsWord cs) (solid : ∀ d ∈ ds, isBlank d = false) :
    IsWord (cs ++ ds) where
  ne_nil := List.append_ne_nil_of_left_ne_nil word.ne_nil ds
  solid c mem := (List.mem_append.1 mem).elim (word.solid c) (solid c)

end TargetNet.Text
