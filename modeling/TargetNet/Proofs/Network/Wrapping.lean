import Mathlib.Tactic.Common
import TargetNet.Network.StateDocument
import TargetNet.Proofs.Network.Source

/-!
# States under a key

A state may stand under a key of its document. What a document must be is looked at before that, and so
the value under the key is only read: null is read as a state that says nothing, and a tag is passed
over. As documents, these are refused. Of all others, it makes no difference whether they stand under
the key (`wrapping_is_immaterial_iff`).
-/

namespace TargetNet

open Yaml (Value RecordShape readDocument)

namespace Network

/-- The document that has another one under the key of the state. -/
def wrapped (document : Value) : Value :=
  .mapping [(.string stateKey, document)]

/-- The document under the key is the one that counts. -/
lemma stateOf_wrapped (document : Value) : stateOf (wrapped document) = .ok document := by
  have here : (Value.string stateKey).same (.string stateKey) = true := by simp [Value.same]
  have found : Value.lookup? stateKey [(.string stateKey, document)] = some document := by
    rw [Value.lookup?, List.find?_cons, here]
    rfl
  rw [wrapped, stateOf, found]
  rfl

namespace State

/-- A state is read past the tag of its value. -/
lemma read_congr {value value' : Value} (same : value.untagged = value'.untagged) :
    read value = read value' := by
  unfold read RecordShape.read
  rw [same]

/-- What stands under the key is read as it is. -/
lemma ofDocument_wrapped (document : Value) :
    ofDocument (wrapped document) =
      match read document with
      | .ok state => state.checked
      | .error mismatch => .error (.state mismatch) := by
  rw [ofDocument, stateOf_wrapped]
  rfl

/-- A tag makes no difference under the key. -/
lemma ofDocument_wrapped_tagged (tag : String) (value : Value) :
    ofDocument (wrapped (.tagged tag value)) = ofDocument (wrapped value) := by
  have same : (Value.tagged tag value).untagged = value.untagged := rfl
  rw [ofDocument_wrapped, ofDocument_wrapped, read_congr same]

/-- Only null and mappings are read as states, tagged or not. -/
lemma untagged_of_ofDocument_wrapped {document : Value} {state : State}
    (accepted : ofDocument (wrapped document) = .ok state) :
    document.untagged = .null ∨ ∃ entries, document.untagged = .mapping entries := by
  rw [ofDocument_wrapped] at accepted
  unfold read RecordShape.read at accepted
  cases inner : document.untagged with
  | null => exact .inl rfl
  | mapping entries => exact .inr ⟨entries, rfl⟩
  | _ =>
    rw [inner] at accepted
    cases accepted

/-- Under the key, null is the default state. -/
lemma ofDocument_wrapped_null : ofDocument (wrapped .null) = .ok {} := by
  rw [ofDocument_wrapped]
  rfl

/-- A mapping without the key is the same state under the key. -/
lemma ofDocument_wrapped_mapping {entries : List (Value × Value)}
    (bare : Value.lookup? stateKey entries = none) :
    ofDocument (wrapped (.mapping entries)) = ofDocument (.mapping entries) := by
  rw [ofDocument, ofDocument, stateOf_wrapped, stateOf_mapping bare]

/-- By itself, a document that is neither null nor a mapping is refused. -/
lemma ofDocument_eq_error {document : Value} (notNull : document ≠ .null)
    (notMapping : ∀ entries, document ≠ .mapping entries) :
    ofDocument document = .error .stateNotMapping := by
  rw [ofDocument]
  cases document with
  | null => exact absurd rfl notNull
  | mapping entries => exact absurd rfl (notMapping entries)
  | _ => rfl

/-- What is read as a state under the key, though it is no mapping. -/
inductive SlipsIn : Value → State → Prop where
  | null : SlipsIn .null {}
  /-- A tag on what slips in does not matter. -/
  | tagged {tag document state} :
    SlipsIn document state →
    SlipsIn (.tagged tag document) state
  | taggedMapping {tag entries state} :
    ofDocument (wrapped (.mapping entries)) = .ok state →
    SlipsIn (.tagged tag (.mapping entries)) state

/-- What slips in under the key is what is accepted there and is no mapping. -/
theorem ofDocument_wrapped_eq_ok_iff {document : Value}
    (notMapping : ∀ entries, document ≠ .mapping entries) {state : State} :
    ofDocument (wrapped document) = .ok state ↔ SlipsIn document state := by
  cases document with
  | null =>
    rw [ofDocument_wrapped_null]
    constructor
    · rintro ⟨⟩
      exact .null
    · rintro ⟨⟩
      rfl
  | mapping entries => exact absurd rfl (notMapping entries)
  | tagged tag inner =>
    rw [ofDocument_wrapped_tagged]
    by_cases mapping : ∃ entries, inner = .mapping entries
    · obtain ⟨entries, rfl⟩ := mapping
      constructor
      · exact .taggedMapping
      · rintro (_ | nested | accepted)
        · cases nested
        · exact accepted
    · rw [ofDocument_wrapped_eq_ok_iff (not_exists.1 mapping)]
      constructor
      · exact .tagged
      · rintro (_ | nested | accepted)
        · exact nested
        · exact absurd ⟨_, rfl⟩ mapping
  | _ =>
    constructor
    · intro accepted
      have lax := untagged_of_ofDocument_wrapped accepted
      simp [Value.untagged] at lax
    · intro slips
      cases slips

/-- What slips in is no mapping. -/
lemma SlipsIn.ne_mapping {document : Value} {state : State} (slips : SlipsIn document state)
    (entries : List (Value × Value)) : document ≠ .mapping entries := by
  rintro rfl
  cases slips

/-- By itself, it is no state. -/
lemma ofDocument_ne_ok {document : Value} (notMapping : ∀ entries, document ≠ .mapping entries)
    (state : State) : ofDocument document ≠ .ok state := by
  by_cases null : document = .null
  · rw [null]
    nofun
  · rw [ofDocument_eq_error null notMapping]
    nofun

/-- The state of a text is that of its document. -/
lemma parse_of_readDocument {text : String} {document : Value}
    (read : readDocument text = .ok document) : parse text = ofDocument document := by
  unfold parse
  rw [read]

/-- A document that is a mapping without the key is the same state under the key. A document that is no
mapping is refused, and still it may slip in under the key: as null, or with tags on null or on a
mapping that is a state. Only for these it makes a difference whether they stand under the key. -/
theorem wrapping_is_immaterial_iff (document : Value)
    (bare : ∀ entries, document = .mapping entries → Value.lookup? stateKey entries = none) :
    (∀ entries, document = .mapping entries →
      ofDocument (wrapped document) = ofDocument document) ∧
    ((∀ entries, document ≠ .mapping entries) →
      (document = .null → ofDocument document = .error .emptyState) ∧
      (document ≠ .null → ofDocument document = .error .stateNotMapping) ∧
      ∀ state, ofDocument (wrapped document) = .ok state ↔ SlipsIn document state) ∧
    ((∀ state, ofDocument (wrapped document) = .ok state ↔ ofDocument document = .ok state) ↔
      ∀ state, ¬ SlipsIn document state) ∧
    ∀ text nested, readDocument text = .ok document → readDocument nested = .ok (wrapped document) →
      parse text = ofDocument document ∧ parse nested = ofDocument (wrapped document) := by
  have mappings {entries : List (Value × Value)} (mapping : document = .mapping entries) :
      ofDocument (wrapped document) = ofDocument document := by
    have absent := bare entries mapping
    rw [mapping, ofDocument_wrapped_mapping absent]
  refine ⟨fun entries => mappings, fun notMapping => ⟨fun null => ?_, fun notNull => ?_, fun state =>
    ofDocument_wrapped_eq_ok_iff notMapping⟩, ⟨fun alike state slips => ?_, fun none => ?_⟩,
    fun text nested read readNested =>
      ⟨parse_of_readDocument read, parse_of_readDocument readNested⟩⟩
  · rw [null]
    rfl
  · exact ofDocument_eq_error notNull notMapping
  · have accepted := (ofDocument_wrapped_eq_ok_iff slips.ne_mapping).2 slips
    exact ofDocument_ne_ok slips.ne_mapping state ((alike state).1 accepted)
  · intro state
    by_cases mapping : ∃ entries, document = .mapping entries
    · obtain ⟨entries, mapping⟩ := mapping
      rw [mappings mapping]
    · have notMapping := not_exists.1 mapping
      rw [ofDocument_wrapped_eq_ok_iff notMapping]
      exact iff_of_false (none state) (ofDocument_ne_ok notMapping state)

/-- No text at all stands for null. -/
lemma plainValue_empty : Yaml.plainValue "" = .ok .null := rfl

/-- A document with nothing under the key. -/
def keyText : String := "network_state:\n"

/-- The text is a document with nothing under the key. -/
lemma readDocument_keyText : readDocument keyText = .ok (wrapped .null) := by
  have key : Yaml.plainValue stateKey = .ok (.string stateKey) :=
    Yaml.plainValue_eq_string (by decide +kernel)
  have events : Yaml.Event.ofString keyText =
      ([.documentStart, .start .mapping {}, .scalar stateKey .plain {}, .scalar "" .plain {},
        .finish, .documentEnd, .streamEnd], false) := by
    decide +kernel
  rw [readDocument, events]
  simp [Yaml.DocumentTree.build, Yaml.NodeBuilder.number, Yaml.NodeBuilder.add,
    Yaml.NodeBuilder.finish, Yaml.DocumentReader.node, Yaml.DocumentReader.content,
    Yaml.DocumentReader.mapping, Yaml.scalarValue, Yaml.untaggedValue, key, plainValue_empty,
    wrapped, bind, Except.bind, pure, Except.pure, Value.hasKey, Yaml.depthLimit]

/-- Nothing at all is no state, and nothing under the key is one that says nothing. -/
theorem wrapping_is_immaterial_iff_nothing :
    (∀ entries, Value.null = .mapping entries → Value.lookup? stateKey entries = none) ∧
    parse "" = .error .emptyState ∧ parse keyText = .ok {} ∧
    ¬ ∀ state, ofDocument (wrapped .null) = .ok state ↔ ofDocument .null = .ok state := by
  have bare : ∀ entries, Value.null = .mapping entries → Value.lookup? stateKey entries = none :=
    nofun
  have read : readDocument "" = .ok .null := by
    have events : Yaml.Event.ofString "" = ([.streamEnd], false) := by
      decide +kernel
    rw [readDocument, events]
    simp [Yaml.DocumentTree.build, Yaml.DocumentReader.node, Yaml.DocumentReader.content,
      Yaml.scalarValue, Yaml.untaggedValue, plainValue_empty, bind, Except.bind, pure,
      Except.pure]
  obtain ⟨-, others, alike, texts⟩ := wrapping_is_immaterial_iff .null bare
  obtain ⟨empty, -, slips⟩ := others nofun
  obtain ⟨plain, nested⟩ := texts _ _ read readDocument_keyText
  exact ⟨bare, plain.trans (empty rfl), nested.trans ((slips {}).2 .null),
    fun same => alike.1 same {} .null⟩

end State

end Network

end TargetNet
