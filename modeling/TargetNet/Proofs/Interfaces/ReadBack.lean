import Mathlib.Data.List.Basic
import Mathlib.Tactic.Common
import TargetNet.Proofs.Interfaces.Texts
import TargetNet.Proofs.Network.Source

/-!
# Reading stanzas back

Whoever reads a file of stanzas takes every line that begins with `iface` for the head of a stanza, and
the word after it for the name (`namesIn`). Texts of a state are written as they are, so a line feed in
one of them begins a line of its own, and white space in a name cuts the name off. Nothing else comes
between: what is read are the names of the stanzas that were written exactly if every name is one word
and no option has the head of a stanza in it (`names_are_read_back_iff`).
-/

namespace TargetNet.Interfaces

open Network (State Interface Subnet Route)
open Text (IsWord OnOneLine)

/-- The name in a line, if the line is the head of a stanza: its second word. -/
def headedName? (line : List Char) : Option (List Char) :=
  if "iface ".toList.isPrefixOf line then (Text.words line)[1]? else none

/-- The names of the stanzas that a reader finds in a text, line by line. -/
def namesIn (text : String) : List String :=
  ((Text.lines text.toList).filterMap headedName?).map String.ofList

/-! ## Line by line -/

/-- A carriage return at the end of a line does not matter to the name in it. -/
lemma headedName?_withoutReturn (line : List Char) :
    headedName? (Text.withoutReturn line) = headedName? line := by
  rw [Text.withoutReturn]
  split
  · rename_i returned
    obtain ⟨kept, rfl⟩ := List.getLast?_eq_some_iff.1 returned
    have words : Text.words (kept ++ ['\r']) = Text.words kept := by
      rw [Text.words_append (by decide)]
      exact List.append_nil _
    have begins : "iface ".toList.isPrefixOf (kept ++ ['\r']) = "iface ".toList.isPrefixOf kept := by
      rw [Bool.eq_iff_iff, List.isPrefixOf_iff_prefix, List.isPrefixOf_iff_prefix,
        List.prefix_concat_iff, or_iff_right]
      intro same
      exact absurd (congrArg List.getLast? same) (by simp)
    rw [List.dropLast_concat, headedName?, headedName?, words, begins]
  · rfl

/-- A text after a line feed is read by itself. -/
lemma namesIn_append (first rest : String) :
    namesIn (first ++ "\n" ++ rest) = namesIn first ++ namesIn rest := by
  have chars : (first ++ "\n" ++ rest).toList = first.toList ++ '\n' :: rest.toList := by
    simp [String.toList_append]
  rw [namesIn, chars, Text.filterMap_lines_append rfl headedName?_withoutReturn, List.map_append]
  rfl

/-- A line feed at the end adds nothing. -/
lemma namesIn_ended (text : String) : namesIn (text ++ "\n") = namesIn text := by
  have empty : namesIn "" = [] := rfl
  have whole := namesIn_append text ""
  rwa [String.append_empty, empty, List.append_nil] at whole

/-- Texts with line feeds between them are read one by one. -/
lemma namesIn_intercalate (texts : List String) :
    namesIn (String.intercalate "\n" texts) = texts.flatMap namesIn := by
  induction texts with
  | nil => rfl
  | cons text texts ih =>
    cases texts with
    | nil => simp
    | cons next texts =>
      rw [String.intercalate_cons_cons, namesIn_append, ih]
      rfl

/-- What is read in a file is what is read in the lines of its stanzas. -/
lemma namesIn_text (stanzas : List Stanza) :
    namesIn (text stanzas) = stanzas.flatMap fun stanza => stanza.lines.flatMap namesIn := by
  have source : namesIn sourceLine = [] := by decide +kernel
  have block : (namesIn ∘ Stanza.block) = fun stanza => stanza.lines.flatMap namesIn := by
    funext stanza
    rw [Function.comp_apply, Stanza.block, namesIn_ended, namesIn_intercalate]
  rw [text, namesIn_ended, namesIn_append, source, List.append_nil, namesIn_intercalate,
    List.flatMap_map, ← block]
  rfl

/-- What is read is one word. -/
lemma isWord_of_mem_namesIn {name text : String} (mem : name ∈ namesIn text) :
    IsWord name.toList := by
  obtain ⟨word, found, rfl⟩ := List.mem_map.1 mem
  obtain ⟨line, -, headed⟩ := List.mem_filterMap.1 found
  rw [headedName?] at headed
  split at headed
  · rw [String.toList_ofList]
    exact .of_mem_words (List.mem_of_getElem? headed)
  · cases headed

/-! ## Lines of stanzas -/

/-- In a text of one line, there is the name of this line. -/
lemma namesIn_of_onOneLine {line : String} (single : OnOneLine line) :
    namesIn line = ((headedName? line.toList).toList).map String.ofList := by
  rw [namesIn]
  cases chars : line.toList with
  | nil => rfl
  | cons c rest =>
    rw [Text.lines_of_notMem (chars ▸ single) (List.cons_ne_nil _ _), List.filterMap_cons]
    cases headedName? (c :: rest) <;> rfl

/-- A line that begins otherwise is not the head of a stanza. -/
lemma namesIn_of_other {line : String} (single : OnOneLine line)
    (other : line.toList.head? ≠ some 'i') : namesIn line = [] := by
  have plain : ¬ "iface ".toList.isPrefixOf line.toList = true := by
    rw [List.isPrefixOf_iff_prefix]
    rintro ⟨rest, begins⟩
    rw [← begins] at other
    exact other rfl
  rw [namesIn_of_onOneLine single, headedName?, if_neg plain]
  rfl

/-- The line that says when a name comes up is read as no head of a stanza. -/
lemma namesIn_controlLine {name : String} (word : IsWord name.toList) (control : Network.Control) :
    namesIn (controlLine control name) = [] := by
  have plain {start : String} {c : Char} (alone : OnOneLine start)
      (first : start.toList.head? = some c) (other : c ≠ 'i') : namesIn (start ++ name) = [] := by
    apply namesIn_of_other
    · exact Text.onOneLine_append.2 ⟨alone, word.onOneLine⟩
    · rw [String.toList_append, List.head?_append, first]
      exact fun same => other (Option.some.inj same)
  cases control with
  | auto => exact plain (by decide) rfl (by decide)
  | hotplug => exact plain (by decide) rfl (by decide)
  | manual => exact plain (by decide) rfl (by decide)

/-- An option that stays on one line is not either. -/
lemma namesIn_line {setting : Setting} (keyword : OnOneLine setting.keyword)
    (value : OnOneLine setting.value) : namesIn setting.line = [] := by
  apply namesIn_of_other
  · rw [Setting.line, Text.onOneLine_append, Text.onOneLine_append, Text.onOneLine_append]
    exact ⟨⟨⟨by decide, keyword⟩, by decide⟩, value⟩
  · simp [Setting.line, indentation]

/-- A name of one word is read in the head of its stanza. -/
lemma namesIn_header {stanza : Stanza} (word : IsWord stanza.name.toList) :
    namesIn stanza.header = [stanza.name] := by
  have family : OnOneLine stanza.family.word := by
    cases stanza.family <;> decide
  have method : OnOneLine stanza.method.word := by
    cases stanza.method <;> decide
  have single : OnOneLine stanza.header := by
    simp only [Stanza.header, Text.onOneLine_append]
    exact ⟨⟨⟨⟨⟨by decide, word.onOneLine⟩, by decide⟩, family⟩, by decide⟩, method⟩
  have chars : stanza.header.toList = "iface".toList ++ ' ' :: (stanza.name.toList ++
      ' ' :: (stanza.family.word.toList ++ ' ' :: stanza.method.word.toList)) := by
    simp [Stanza.header]
  have headed : headedName? stanza.header.toList = some stanza.name.toList := by
    rw [headedName?, if_pos (by rw [chars]; rfl), chars, Text.words_append (by decide),
      Text.words_append (by decide), word.words]
    rfl
  rw [namesIn_of_onOneLine single, headed]
  simp

/-! ## What is read -/

/-- Where every item gives something, there is as much as there are items. -/
lemma length_le_flatMap_cons {α β : Type} (f : α → β) (more : α → List β) (items : List α) :
    items.length ≤ (items.flatMap fun item => f item :: more item).length := by
  induction items with
  | nil => exact Nat.le_refl 0
  | cons item items ih =>
    rw [List.flatMap_cons, List.length_append, List.length_cons, List.length_cons]
    omega

/-- Lists that each begin with what is wanted give nothing more exactly if they hold nothing more. -/
lemma flatMap_cons_eq_map_iff {α β : Type} {f : α → β} {more : α → List β} {items : List α} :
    (items.flatMap fun item => f item :: more item) = items.map f ↔ ∀ item ∈ items, more item = [] := by
  induction items with
  | nil => simp
  | cons item items ih =>
    rw [List.flatMap_cons, List.map_cons, List.cons_append, List.cons.injEq, List.forall_mem_cons, ← ih]
    constructor
    · rintro ⟨-, same⟩
      have atLeast := length_le_flatMap_cons f more items
      have lengths := congrArg List.length same
      rw [List.length_append, List.length_map] at lengths
      have none : more item = [] := List.eq_nil_of_length_eq_zero (by omega)
      rw [none, List.nil_append] at same
      exact ⟨none, same⟩
    · rintro ⟨none, same⟩
      rw [none, same]
      exact ⟨rfl, rfl⟩

/-- In the lines of a stanza, its name is read, and what its options add. -/
lemma namesIn_lines {stanza : Stanza} (word : IsWord stanza.name.toList) :
    stanza.lines.flatMap namesIn =
      stanza.name :: stanza.settings.flatMap fun setting => namesIn setting.line := by
  have control : (stanza.control.map fun control =>
      controlLine control stanza.name).toList.flatMap namesIn = [] := by
    cases stanza.control with
    | none => rfl
    | some control => simp [namesIn_controlLine word]
  rw [Stanza.lines, List.flatMap_append, control, List.nil_append, List.flatMap_cons,
    namesIn_header word, List.flatMap_map]
  rfl

/-- The names of stanzas are read back exactly if each is one word, and no option has the head of a
stanza in it. -/
lemma namesIn_text_iff {stanzas : List Stanza} :
    namesIn (text stanzas) = stanzas.map (·.name) ↔ ∀ stanza ∈ stanzas,
      IsWord stanza.name.toList ∧ ∀ setting ∈ stanza.settings, namesIn setting.line = [] := by
  have read (words : ∀ stanza ∈ stanzas, IsWord stanza.name.toList) :
      namesIn (text stanzas) = stanzas.flatMap fun stanza =>
        stanza.name :: stanza.settings.flatMap fun setting => namesIn setting.line := by
    rw [namesIn_text]
    exact List.flatMap_congr fun stanza mem => namesIn_lines (words stanza mem)
  constructor
  · intro same
    have words : ∀ stanza ∈ stanzas, IsWord stanza.name.toList := fun stanza mem =>
      isWord_of_mem_namesIn (same ▸ List.mem_map_of_mem mem)
    rw [read words, flatMap_cons_eq_map_iff] at same
    exact fun stanza mem => ⟨words stanza mem, List.flatMap_eq_nil_iff.1 (same stanza mem)⟩
  · intro clean
    rw [read fun stanza mem => (clean stanza mem).1, flatMap_cons_eq_map_iff]
    exact fun stanza mem => List.flatMap_eq_nil_iff.2 (clean stanza mem).2

/-! ## Names of a state -/

/-- The names of stanzas are words exactly if those of the interfaces are. -/
lemma isWord_stanzaNames_iff {state : State} :
    (∀ name ∈ stanzaNames state, IsWord name.toList) ↔
      ∀ interface ∈ state.interfaces, IsWord interface.name.toList := by
  have perm := inOrder_perm state.interfaces
  have loopback : IsWord ['l', 'o'] := ⟨by decide, by simp [Text.isBlank]⟩
  rw [stanzaNames, List.forall_mem_cons]
  constructor
  · rintro ⟨-, each⟩ interface mem
    exact each _ (List.mem_flatMap.2 ⟨interface, perm.mem_iff.2 mem, List.mem_cons_self⟩)
  · intro each
    refine ⟨loopback, ?_⟩
    intro name mem
    obtain ⟨interface, inside, named⟩ := List.mem_flatMap.1 mem
    have word := each interface (perm.mem_iff.1 inside)
    rcases List.mem_cons.1 named with rfl | named
    · exact word
    · exact isWord_of_mem_aliasNames word named

/-- The names that are read are those that are meant if and only if these are words and no option
adds one. -/
lemma namesIn_render_iff {postupAlias : Bool} {state : State} :
    namesIn (render postupAlias state) = stanzaNames state ↔
      (∀ interface ∈ state.interfaces, IsWord interface.name.toList) ∧
      ∀ stanza ∈ stanzas postupAlias state, ∀ setting ∈ stanza.settings,
        namesIn setting.line = [] := by
  rw [render, ← map_name_stanzas postupAlias, namesIn_text_iff, forall₂_and,
    ← isWord_stanzaNames_iff, ← map_name_stanzas postupAlias, List.forall_mem_map]

/-- What a reader takes for the names of stanzas are the names that a state asks stanzas for, in their
order, exactly if the name of every interface is one word and no option has the head of a stanza in it.
It is so whenever no other text of the state has a line feed in it. -/
theorem names_are_read_back_iff (postupAlias : Bool) (state : State) :
    (namesIn (render postupAlias state) = stanzaNames state ↔
      (∀ interface ∈ state.interfaces, IsWord interface.name.toList) ∧
      ∀ stanza ∈ stanzas postupAlias state, ∀ setting ∈ stanza.settings,
        namesIn setting.line = []) ∧
    ((∀ interface ∈ state.interfaces, IsWord interface.name.toList) →
      (∀ s ∈ stateTexts state, OnOneLine s) →
      namesIn (render postupAlias state) = stanzaNames state) := by
  refine ⟨namesIn_render_iff, fun words texts => namesIn_render_iff.2 ⟨words, ?_⟩⟩
  intro stanza written setting mem
  have single := (OfState.of_mem written mem).isOneLine words texts
  exact namesIn_line single.keyword single.value

/-- An interface with an alias, and with a command that mentions the head of a stanza. -/
def mentioningState : State where
  interfaces := [
    { name := "eth0", kind := .physical, subnets := [{ kind := .dhcp4 }, { kind := .dhcp6 }],
      params := .ofList [("up", .string "echo iface eth1")] }]

/-- What is only mentioned is not read. -/
theorem names_are_read_back_iff_mentioningState :
    (∀ interface ∈ mentioningState.interfaces, IsWord interface.name.toList) ∧
      (∀ s ∈ stateTexts mentioningState, OnOneLine s) ∧
      namesIn (render true mentioningState) = ["lo", "eth0", "eth0:1"] := by
  have words : ∀ interface ∈ mentioningState.interfaces, IsWord interface.name.toList := by
    rw [mentioningState, List.forall_mem_singleton]
    exact ⟨by decide, by simp [Text.isBlank]⟩
  have texts : ∀ s ∈ stateTexts mentioningState, OnOneLine s := by
    have all : stateTexts mentioningState = ["up", "echo iface eth1"] := rfl
    rw [all, List.forall_mem_cons, List.forall_mem_singleton]
    exact ⟨by decide, by decide⟩
  refine ⟨words, texts, ?_⟩
  rw [(names_are_read_back_iff true mentioningState).2 words texts, stanzaNames, inOrder,
    mentioningState, List.mergeSort_singleton]
  decide +kernel

/-! ## Texts that pose as stanzas -/

/-- A state document with a space in the name of an interface, and with a line feed in the address of
a name server. -/
def forgedText : String :=
  "interfaces:\n- name: e x\n  type: physical\ndns:\n  nameservers:\n  - \"1\\niface y\"\n"

/-- The state of `forgedText`. -/
def forgedState : State where
  interfaces := [{ name := "e x", kind := .physical }]
  dns := { nameservers := ["1\niface y"] }

open Yaml (plainValue plainValue_eq_string readDocument Value) in
/-- The document is accepted, with the space and the line feed in it. -/
lemma parse_forgedText : State.parse forgedText = .ok forgedState := by
  have events : Yaml.Event.ofString forgedText =
      ([.documentStart, .start .mapping {}, .scalar "interfaces" .plain {}, .start .sequence {},
        .start .mapping {}, .scalar "name" .plain {}, .scalar "e x" .plain {},
        .scalar "type" .plain {}, .scalar "physical" .plain {}, .finish, .finish,
        .scalar "dns" .plain {}, .start .mapping {}, .scalar "nameservers" .plain {},
        .start .sequence {}, .scalar "1\niface y" .quoted {}, .finish, .finish, .finish,
        .documentEnd, .streamEnd], false) := by
    decide +kernel
  have words : ∀ text ∈ ["interfaces", "name", "e x", "type", "physical", "dns", "nameservers"],
      plainValue text = .ok (.string text) := by
    simp only [List.forall_mem_cons]
    refine ⟨?_, ?_, ?_, ?_, ?_, ?_, ?_, List.forall_mem_nil _⟩ <;>
      exact plainValue_eq_string (by decide +kernel)
  have read : readDocument forgedText = .ok (.mapping [
      (.string "interfaces", .sequence [
        .mapping [(.string "name", .string "e x"), (.string "type", .string "physical")]]),
      (.string "dns", .mapping [(.string "nameservers", .sequence [.string "1\niface y"])])]) := by
    simp only [List.forall_mem_cons] at words
    rw [readDocument, events]
    simp [Yaml.DocumentTree.build, Yaml.NodeBuilder.number, Yaml.NodeBuilder.add,
      Yaml.NodeBuilder.finish, Yaml.DocumentReader.node, Yaml.DocumentReader.content,
      Yaml.DocumentReader.mapping, Yaml.DocumentReader.sequence, Yaml.scalarValue,
      Yaml.untaggedValue, words, bind, Except.bind, pure, Except.pure, Value.hasKey,
      Value.same, Yaml.depthLimit]
  have bare : Value.lookup? Network.stateKey [
      (.string "interfaces", .sequence [
        .mapping [(.string "name", .string "e x"), (.string "type", .string "physical")]]),
      (.string "dns", .mapping [(.string "nameservers", .sequence [.string "1\niface y"])])] =
        none := by
    simp [Value.lookup?, Value.same, Network.stateKey]
  unfold Network.State.parse
  rw [read]
  change Network.State.ofDocument _ = _
  rw [Network.State.ofDocument, Network.State.stateOf_mapping bare]
  rfl

/-- What is meant are the loopback stanza and the one for the interface. -/
lemma stanzas_forgedState (postupAlias : Bool) :
    stanzas postupAlias forgedState =
      [⟨some .auto, "lo", .inet, .loopback, [⟨"dns-nameservers", "1\niface y"⟩]⟩,
        ⟨none, "e x", .inet, .manual, []⟩] := by
  rw [stanzas, inOrder, forgedState, List.mergeSort_singleton]
  rfl

/-- The document is accepted, and then a reader finds a stanza that is not asked for, and takes
another one by a different name. -/
theorem names_are_not_read_back :
    State.parse forgedText = .ok forgedState ∧ ∀ postupAlias,
      stanzaNames forgedState = ["lo", "e x"] ∧
      namesIn (render postupAlias forgedState) = ["lo", "y", "e"] := by
  refine ⟨parse_forgedText, fun postupAlias => ⟨?_, ?_⟩⟩
  · rw [← map_name_stanzas postupAlias, stanzas_forgedState]
    rfl
  · rw [render, stanzas_forgedState, namesIn_text]
    decide +kernel

end TargetNet.Interfaces
