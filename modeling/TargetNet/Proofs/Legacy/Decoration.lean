import Mathlib.Data.List.Basic
import Mathlib.Tactic.Common
import TargetNet.Legacy.Known
import TargetNet.Proofs.Text.Lines
import TargetNet.Proofs.Text.OneLine
import TargetNet.Proofs.Text.Trim

/-!
# Decorations of shipped lines

A file counts as shipped if its content lines are the expected ones. `IsDecoration` says which texts
these are, without reading them: white space may be put around each line, comments between the lines,
and each line may end in either way. No other text is taken for the shipped one
(`content_is_expected_iff`): not one with a line more or less, be it blank, and none with white space
before the number sign of a comment.
-/

namespace TargetNet.Legacy

open Text (HasLines)

/-- White space that can stand on a line. -/
def IsPadding (cs : List Char) : Prop :=
  ∀ c ∈ cs, Text.isBlank c = true ∧ c ≠ '\n'

/-- The second lines are the first ones with white space around each and comments between them. -/
inductive Decorates : List (List Char) → List (List Char) → Prop where
  | nil : Decorates [] []
  | comment {comment : List Char} {expected lines : List (List Char)} :
    comment.head? = some '#' →
    Decorates expected lines →
    Decorates expected (comment :: lines)
  | padded {line before after : List Char} {expected lines : List (List Char)} :
    IsPadding before →
    IsPadding after →
    Decorates expected lines →
    Decorates (line :: expected) ((before ++ line ++ after) :: lines)

/-- A text is made of decorated lines. -/
def IsDecoration (expected : List String) (text : String) : Prop :=
  ∃ lines, Decorates (expected.map String.toList) lines ∧ HasLines lines text.toList

/-- A line as an artifact lists it: on one line, without white space around it, and no comment. -/
def IsContentLine (line : String) : Prop :=
  Text.OnOneLine line ∧ Text.trimString line = line ∧ line.toList.head? ≠ some '#'

instance (line : String) : Decidable (IsContentLine line) :=
  inferInstanceAs (Decidable (_ ∧ _ ∧ _))

/-- The lines of the known artifacts are listed in this way. -/
lemma isContentLine_of_known : ∀ artifact ∈ known, ∀ line ∈ artifact.expected, IsContentLine line := by
  decide +kernel

/-! ## Content line by line -/

lemma isComment_iff {line : List Char} : isComment line = true ↔ line.head? = some '#' :=
  beq_iff_eq

/-- What a line gives to the content: nothing if it is a comment. -/
def contentOf? (line : List Char) : Option (List Char) :=
  if line.head? = some '#' then none else some (Text.trim line)

/-- The content lines are what the lines of a text give to the content. -/
lemma contentLines_eq (text : List Char) :
    contentLines text = (Text.lines text).filterMap contentOf? := by
  rw [contentLines]
  induction Text.lines text with
  | nil => rfl
  | cons line lines ih =>
    rw [List.filter_cons, List.filterMap_cons, contentOf?, ← ih]
    by_cases comment : line.head? = some '#'
    · rw [isComment_iff.2 comment, if_pos comment]
      rfl
    · rw [Bool.eq_false_iff.2 (mt isComment_iff.1 comment), if_neg comment]
      rfl

/-- At most a carriage return is taken off a line. -/
lemma withoutReturn_append (line : List Char) :
    ∃ rest, line = Text.withoutReturn line ++ rest ∧ (rest = [] ∨ rest = ['\r']) := by
  rw [Text.withoutReturn]
  split
  · rename_i last
    obtain ⟨init, rfl⟩ := List.getLast?_eq_some_iff.1 last
    exact ⟨['\r'], by rw [List.dropLast_concat], .inr rfl⟩
  · exact ⟨[], (List.append_nil _).symm, .inl rfl⟩

/-- A carriage return at the end of a line is white space. -/
lemma contentOf?_withoutReturn (line : List Char) :
    contentOf? (Text.withoutReturn line) = contentOf? line := by
  obtain ⟨rest, split, rest'⟩ := withoutReturn_append line
  generalize Text.withoutReturn line = kept at split
  subst split
  rcases rest' with rfl | rfl
  · rw [List.append_nil]
  · have trimmed : Text.trim (kept ++ ['\r']) = Text.trim kept :=
      Text.trim_surrounded (List.forall_mem_nil _) (List.forall_mem_singleton.2 rfl) kept
    rw [contentOf?, contentOf?, trimmed]
    cases kept with
    | nil => rfl
    | cons c more => rfl

/-- The content of a text is that of the lines that it is made of. -/
lemma contentLinesOf_eq {made : List (List Char)} {text : String}
    (h : HasLines made text.toList) :
    contentLinesOf text = (made.filterMap contentOf?).map String.ofList := by
  rw [contentLinesOf, contentLines_eq, h.filterMap_lines contentOf?_withoutReturn]

/-! ## Content of decorated lines -/

/-- White space does not begin a comment. -/
lemma head?_of_isPadding {cs rest : List Char} (padding : IsPadding cs)
    (plain : cs = [] → rest.head? ≠ some '#') : (cs ++ rest).head? ≠ some '#' := by
  cases cs with
  | nil => exact plain rfl
  | cons c more =>
    intro comment
    cases Option.some.inj comment
    exact absurd (padding _ List.mem_cons_self).1 (by decide)

/-- A trimmed line that is no comment is the content of the line with white space around it. -/
lemma contentOf?_padded {line before after : List Char} (padding : IsPadding before)
    (padding' : IsPadding after) (trimmed : Text.trim line = line)
    (plain : line.head? ≠ some '#') : contentOf? (before ++ line ++ after) = some line := by
  have behind : (line ++ after).head? ≠ some '#' := by
    cases line with
    | nil =>
      have nothing : ([] : List Char).head? ≠ some '#' := nofun
      have bare := head?_of_isPadding padding' fun _ => nothing
      rwa [List.append_nil] at bare
    | cons c more => exact plain
  have bare : (before ++ line ++ after).head? ≠ some '#' := by
    rw [List.append_assoc]
    exact head?_of_isPadding padding fun _ => behind
  rw [contentOf?, if_neg bare, Text.trim_surrounded (fun c mem => (padding c mem).1)
    (fun c mem => (padding' c mem).1), trimmed]

/-- The content of decorated lines is what they decorate. -/
lemma Decorates.content {expected lines : List (List Char)} (decorates : Decorates expected lines)
    (plain : ∀ line ∈ expected, Text.trim line = line ∧ line.head? ≠ some '#') :
    lines.filterMap contentOf? = expected := by
  induction decorates with
  | nil => rfl
  | comment begins _ ih =>
    rw [List.filterMap_cons, contentOf?, if_pos begins]
    exact ih plain
  | padded padding padding' _ ih =>
    obtain ⟨⟨trimmed, bare⟩, plain⟩ := List.forall_mem_cons.1 plain
    rw [List.filterMap_cons, contentOf?_padded padding padding' trimmed bare, ih plain]

/-- White space within a line is white space that can stand on one. -/
lemma isPadding_of_subset {line part : List Char} (single : '\n' ∉ line) (subset : part ⊆ line)
    (blank : ∀ c ∈ part, Text.isBlank c = true) : IsPadding part := by
  intro c mem
  refine ⟨blank c mem, ?_⟩
  rintro rfl
  exact single (subset mem)

/-- Lines decorate their content. -/
lemma decorates_content {lines : List (List Char)} (single : ∀ line ∈ lines, '\n' ∉ line) :
    Decorates (lines.filterMap contentOf?) lines := by
  induction lines with
  | nil => exact .nil
  | cons line lines ih =>
    obtain ⟨alone, single⟩ := List.forall_mem_cons.1 single
    rw [List.filterMap_cons, contentOf?]
    by_cases comment : line.head? = some '#'
    · rw [if_pos comment]
      exact .comment comment (ih single)
    · rw [if_neg comment]
      obtain ⟨before, after, split, blank, blank'⟩ := Text.exists_trim line
      -- what is taken off is on the line as well, so it is no line feed
      have padding : IsPadding before := by
        refine isPadding_of_subset alone ?_ blank
        rw [split, List.append_assoc]
        exact List.subset_append_left _ _
      have padding' : IsPadding after := by
        refine isPadding_of_subset alone ?_ blank'
        rw [split]
        exact List.subset_append_right _ _
      have decorated : Decorates (Text.trim line :: lines.filterMap contentOf?)
          ((before ++ Text.trim line ++ after) :: lines) := .padded padding padding' (ih single)
      rwa [← split] at decorated

/-- Lines are the same as texts and as lists of characters. -/
lemma map_ofList_eq_iff {lines : List (List Char)} {expected : List String} :
    lines.map String.ofList = expected ↔ lines = expected.map String.toList := by
  constructor
  · rintro rfl
    simp [Function.comp_def]
  · rintro rfl
    simp [Function.comp_def]

section

variable {expected : List String} {text other : String}

/-- With the content lines of an artifact, a text is taken for it exactly if it decorates them. -/
lemma contentLinesOf_eq_iff (plain : ∀ line ∈ expected, IsContentLine line) :
    contentLinesOf text = expected ↔ IsDecoration expected text := by
  constructor
  · rintro rfl
    obtain ⟨lines, made⟩ := Text.exists_hasLines text.toList
    have content := map_ofList_eq_iff.1 (contentLinesOf_eq made).symm
    refine ⟨lines, ?_, made⟩
    rw [← content]
    exact decorates_content made.single
  · rintro ⟨lines, decorates, made⟩
    rw [contentLinesOf_eq made, map_ofList_eq_iff]
    apply decorates.content
    intro line mem
    obtain ⟨s, listed, rfl⟩ := List.mem_map.1 mem
    obtain ⟨-, trimmed, bare⟩ := plain s listed
    refine ⟨?_, bare⟩
    rw [Text.trimString] at trimmed
    rw [← String.toList_ofList (l := Text.trim s.toList), trimmed]

/-- The number of content lines tells whether a line has been added that is no comment. -/
lemma contentLinesOf_ne_of_line {before after : List (List Char)} {line : List Char}
    (bare : line.head? ≠ some '#') (made : HasLines (before ++ after) text.toList)
    (made' : HasLines (before ++ line :: after) other.toList) :
    contentLinesOf text ≠ contentLinesOf other := by
  have added : contentOf? line = some (Text.trim line) := by rw [contentOf?, if_neg bare]
  rw [contentLinesOf_eq made, contentLinesOf_eq made']
  intro same
  have lengths := congrArg List.length same
  rw [List.length_map, List.length_map, List.filterMap_append, List.filterMap_append,
    List.filterMap_cons_some added, List.length_append, List.length_append,
    List.length_cons] at lengths
  omega

/-- White space before the number sign makes a comment a content line, and no line that is listed
begins with a number sign. -/
lemma contentLinesOf_ne_of_indented (plain : ∀ line ∈ expected, IsContentLine line)
    {lines : List (List Char)} {padding more : List Char} (made : HasLines lines text.toList)
    (isPadding : IsPadding padding) (indented : padding ≠ [])
    (mem : padding ++ '#' :: more ∈ lines) : contentLinesOf text ≠ expected := by
  have bare : (padding ++ '#' :: more).head? ≠ some '#' :=
    head?_of_isPadding isPadding fun empty => absurd empty indented
  have trimmed : Text.trim (padding ++ '#' :: more) = Text.trim ('#' :: more) := by
    have := Text.trim_surrounded (fun c mem => (isPadding c mem).1) (List.forall_mem_nil _)
      ('#' :: more)
    rwa [List.append_nil] at this
  have kept : String.ofList (Text.trim ('#' :: more)) ∈ contentLinesOf text := by
    rw [contentLinesOf_eq made]
    apply List.mem_map_of_mem
    exact List.mem_filterMap.2 ⟨_, mem, by rw [contentOf?, if_neg bare, trimmed]⟩
  rintro rfl
  obtain ⟨-, -, other⟩ := plain _ kept
  rw [String.toList_ofList] at other
  exact other (Text.head?_trim_cons (by decide) more)

end

/-- A text has the content lines of an artifact exactly if it decorates them. Of two texts that differ
by a line that is no comment, be it blank, at most one does, and none does that has white space before
the number sign of a comment. -/
theorem content_is_expected_iff {expected : List String}
    (plain : ∀ line ∈ expected, IsContentLine line) :
    (∀ text, contentLinesOf text = expected ↔ IsDecoration expected text) ∧
    (∀ text other before line after, HasLines (before ++ after) text.toList →
      HasLines (before ++ line :: after) other.toList → line.head? ≠ some '#' →
      ¬ (contentLinesOf text = expected ∧ contentLinesOf other = expected)) ∧
    (∀ text lines padding more, HasLines lines text.toList → IsPadding padding → padding ≠ [] →
      padding ++ '#' :: more ∈ lines → contentLinesOf text ≠ expected) := by
  refine ⟨fun text => contentLinesOf_eq_iff plain, ?_, ?_⟩
  · rintro text other before line after made made' bare ⟨same, same'⟩
    exact contentLinesOf_ne_of_line bare made made' (same.trans same'.symm)
  · intro text lines padding more made isPadding indented mem
    exact contentLinesOf_ne_of_indented plain made isPadding indented mem

/-- With a comment, white space and a carriage return, the shipped configuration is still recognised;
with a blank line it is not. -/
theorem content_is_expected_iff_eth0 :
    (∀ line ∈ eth0Config.expected, IsContentLine line) ∧
    IsDecoration eth0Config.expected "# The primary interface\n\tauto eth0 \r\niface eth0 inet dhcp" ∧
    ¬ IsDecoration eth0Config.expected "auto eth0\n\niface eth0 inet dhcp\n" := by
  have plain : ∀ line ∈ eth0Config.expected, IsContentLine line :=
    isContentLine_of_known _ List.mem_cons_self
  obtain ⟨decorations, -⟩ := content_is_expected_iff plain
  refine ⟨plain, (decorations _).1 (by decide +kernel), fun decoration => ?_⟩
  exact absurd ((decorations _).2 decoration) (by decide +kernel)

end TargetNet.Legacy
