import Mathlib.Data.List.Basic
import Mathlib.Tactic.Common
import TargetNet.Proofs.Text.Joined

/-!
# Texts made of lines

`HasLines` says how a text is made of lines, without reading it: each line is followed by a line feed,
with or without a carriage return before it, and only the last one may do without. Every text is made
of lines (`exists_hasLines`). A carriage return before a line feed can also be told as a part of the
line, so a text can be made of lines in more than one way. All of them give what is read from it, but
for a carriage return at the end of a line (`HasLines.filterMap_lines`).
-/

namespace TargetNet.Text

/-- What ends a line. -/
inductive IsLineEnd : List Char → Prop where
  | lineFeed : IsLineEnd ['\n']
  | returned : IsLineEnd ['\r', '\n']

/-- A text is made of these lines. Each has its end, but the last one may do without it unless there
is nothing on it. -/
inductive HasLines : List (List Char) → List Char → Prop where
  | nil : HasLines [] []
  | ended {line ending rest : List Char} {lines : List (List Char)} :
    '\n' ∉ line →
    IsLineEnd ending →
    HasLines lines rest →
    HasLines (line :: lines) (line ++ ending ++ rest)
  | unended {line : List Char} :
    '\n' ∉ line →
    line ≠ [] →
    HasLines [line] line

/-- The lines that a text is made of have no line feed in them. -/
lemma HasLines.single {lines : List (List Char)} {text : List Char} (made : HasLines lines text) :
    ∀ line ∈ lines, '\n' ∉ line := by
  induction made with
  | nil => exact List.forall_mem_nil _
  | ended single _ _ ih => exact List.forall_mem_cons.2 ⟨single, ih⟩
  | unended single _ => exact List.forall_mem_singleton.2 single

/-- Every text is made of lines. -/
lemma exists_hasLines (text : List Char) : ∃ lines, HasLines lines text := by
  -- by the length of the text, since its lines are taken off one by one
  induction length : text.length using Nat.strongRecOn generalizing text with
  | _ n ih =>
    by_cases more : '\n' ∈ text
    · obtain ⟨line, rest, rfl, single⟩ := List.eq_append_cons_of_mem more
      have shorter : rest.length < n := by
        rw [← length, List.length_append, List.length_cons]
        omega
      obtain ⟨lines, made⟩ := ih _ shorter rest rfl
      have whole := HasLines.ended single .lineFeed made
      rw [List.append_assoc, List.singleton_append] at whole
      exact ⟨line :: lines, whole⟩
    · cases text with
      | nil => exact ⟨[], .nil⟩
      | cons c line => exact ⟨[c :: line], .unended more (List.cons_ne_nil _ _)⟩

/-- A line that is ended is the first one, perhaps without a carriage return. -/
lemma lines_ended {line ending : List Char} (single : '\n' ∉ line) (isEnd : IsLineEnd ending)
    (rest : List Char) :
    lines (line ++ ending ++ rest) = line :: lines rest ∨
      lines (line ++ ending ++ rest) = withoutReturn line :: lines rest := by
  cases isEnd with
  | lineFeed =>
    right
    rw [List.append_assoc, List.singleton_append, lines_append_newline single]
  | returned =>
    left
    have single' : '\n' ∉ line ++ ['\r'] := by
      rw [List.mem_append, not_or]
      exact ⟨single, by decide⟩
    have kept : withoutReturn (line ++ ['\r']) = line := by
      rw [withoutReturn, List.getLast?_concat, if_pos rfl, List.dropLast_concat]
    rw [show line ++ ['\r', '\n'] ++ rest = (line ++ ['\r']) ++ '\n' :: rest by simp,
      lines_append_newline single', kept]

/-- What is found line by line in a text is what is found in the lines that it is made of, if a
carriage return at the end of a line does not matter. -/
lemma HasLines.filterMap_lines {α : Type} {find : List Char → Option α}
    (same : ∀ line, find (withoutReturn line) = find line) {made : List (List Char)}
    {text : List Char} (h : HasLines made text) :
    (lines text).filterMap find = made.filterMap find := by
  induction h with
  | nil => rfl
  | ended single isEnd _ ih =>
    rcases lines_ended single isEnd _ with read | read
    · rw [read, List.filterMap_cons, List.filterMap_cons, ih]
    · rw [read, List.filterMap_cons, List.filterMap_cons, same, ih]
  | unended single some => rw [lines_of_notMem single some]

end TargetNet.Text
