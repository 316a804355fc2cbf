import Mathlib.Tactic.Common
import TargetNet.Network.Source
import TargetNet.Proofs.Job
import TargetNet.Proofs.Network.Reading

/-!
# What a source gives

A state that comes from a file is the one that the text of the file is accepted for, as a state
document (`loadState_eq_ok_iff`) or as a config (`loadConfig_eq_ok_iff`).
-/

namespace TargetNet

namespace Network

variable [Circumstances] {path : Path} {fs : FileSystem} {state : State}

/-- A state file is loaded as the state that its text is accepted for. -/
lemma loadState_eq_ok_iff :
    (loadState path fs).result = .ok state ↔
      ∃ text, fs.readText path = .ok text ∧ State.parse text = .ok state := by
  constructor
  · intro h
    obtain ⟨_, -, h⟩ := (Job.bind_ok_iff _ _ _ _).1 h
    obtain ⟨text, read, h⟩ := (Job.bind_ok_iff _ _ _ _).1 h
    exact ⟨text, mapError_eq_ok_iff.1 read, mapError_eq_ok_iff.1 h⟩
  · rintro ⟨text, read, accepted⟩
    refine (Job.bind_ok_iff _ _ _ _).2 ⟨(), rfl, (Job.bind_ok_iff _ _ _ _).2
      ⟨text, mapError_eq_ok_iff.2 read, mapError_eq_ok_iff.2 accepted⟩⟩

/-- A config file is loaded as the state that its text is accepted for. -/
lemma loadConfig_eq_ok_iff :
    (loadConfig path fs).result = .ok state ↔
      ∃ text, fs.readText path = .ok text ∧ State.parseConfig text = .ok state := by
  constructor
  · intro h
    obtain ⟨_, -, h⟩ := (Job.bind_ok_iff _ _ _ _).1 h
    obtain ⟨text, read, h⟩ := (Job.bind_ok_iff _ _ _ _).1 h
    obtain ⟨entries, parsed, h⟩ := (Job.bind_ok_iff _ _ _ _).1 h
    obtain ⟨_, -, h⟩ := (Job.bind_ok_iff _ _ _ _).1 h
    exact ⟨text, mapError_eq_ok_iff.1 read, Yaml.bind_eq_ok_iff.2
      ⟨entries, mapError_eq_ok_iff.1 parsed, mapError_eq_ok_iff.1 h⟩⟩
  · rintro ⟨text, read, accepted⟩
    obtain ⟨entries, parsed, made⟩ := Yaml.bind_eq_ok_iff.1 accepted
    refine (Job.bind_ok_iff _ _ _ _).2 ⟨(), rfl, (Job.bind_ok_iff _ _ _ _).2
      ⟨text, mapError_eq_ok_iff.2 read, (Job.bind_ok_iff _ _ _ _).2
        ⟨entries, mapError_eq_ok_iff.2 parsed, (Job.bind_ok_iff _ _ _ _).2
          ⟨(), rfl, mapError_eq_ok_iff.2 made⟩⟩⟩⟩

/-- A state is resolved again wherever its sources are read as before. -/
lemma resolve_of_readText {fs' : FileSystem} {stateFile configFile : Option Path}
    (same : ∀ path ∈ stateFile.toList ++ configFile.toList, ∀ text,
      fs.readText path = .ok text → fs'.readText path = .ok text)
    (h : (resolve stateFile configFile fs).result = .ok state) :
    (resolve stateFile configFile fs').result = .ok state := by
  have fromState {path : Path} (mem : path ∈ stateFile.toList)
      (loaded : (loadState path fs).result = .ok state) :
      (loadState path fs').result = .ok state := by
    obtain ⟨text, read, accepted⟩ := loadState_eq_ok_iff.1 loaded
    exact loadState_eq_ok_iff.2 ⟨text, same path (List.mem_append_left _ mem) text read, accepted⟩
  cases stateFile with
  | some stateFile =>
    cases configFile with
    | some configFile =>
      obtain ⟨_, -, loaded⟩ := (Job.bind_ok_iff _ _ _ _).1 h
      exact (Job.bind_ok_iff _ _ _ _).2 ⟨(), rfl, fromState (by simp) loaded⟩
    | none => exact fromState (by simp) h
  | none =>
    cases configFile with
    | some configFile =>
      obtain ⟨text, read, accepted⟩ := loadConfig_eq_ok_iff.1 h
      exact loadConfig_eq_ok_iff.2 ⟨text, same configFile (by simp) text read, accepted⟩
    | none => cases h

/-- A state that is resolved was accepted, as a state document or as a config. -/
lemma accepted_of_resolve {stateFile configFile : Option Path}
    (h : (resolve stateFile configFile fs).result = .ok state) :
    ∃ text, State.parse text = .ok state ∨ State.parseConfig text = .ok state := by
  have fromState {path : Path} (loaded : (loadState path fs).result = .ok state) :
      ∃ text, State.parse text = .ok state ∨ State.parseConfig text = .ok state := by
    obtain ⟨text, -, accepted⟩ := loadState_eq_ok_iff.1 loaded
    exact ⟨text, .inl accepted⟩
  cases stateFile with
  | some stateFile =>
    cases configFile with
    | some configFile =>
      obtain ⟨_, -, loaded⟩ := (Job.bind_ok_iff _ _ _ _).1 h
      exact fromState loaded
    | none => exact fromState h
  | none =>
    cases configFile with
    | some configFile =>
      obtain ⟨text, -, accepted⟩ := loadConfig_eq_ok_iff.1 h
      exact ⟨text, .inr accepted⟩
    | none => cases h

end Network

/-! ## A small document -/

namespace Yaml

/-- A text that spells nothing else is itself. -/
lemma plainValue_eq_string {text : String}
    (other : (text.isEmpty || Scalar.isNull text || (Scalar.bool? text).isSome ||
      (Scalar.integer? text.toList).isSome || Scalar.isZeroPadded text.toList ||
      (Scalar.float? text).isSome) = false) : plainValue text = .ok (.string text) := by
  simp only [Bool.or_eq_false_iff, Option.isSome_eq_false_iff, Option.isNone_iff_eq_none] at other
  obtain ⟨⟨⟨⟨⟨empty, null⟩, bool⟩, integer⟩, padded⟩, float⟩ := other
  simp [plainValue, Scalar.resolve, empty, null, bool, integer, padded, float]

/-- A text that spells an integer is this integer. -/
lemma plainValue_eq_int {text : String} {n : Int}
    (other : (text.isEmpty || Scalar.isNull text || (Scalar.bool? text).isSome) = false)
    (integer : Scalar.integer? text.toList = some n) (word : Scalar.sizeOf n = .word) :
    plainValue text = .ok (.int n) := by
  simp only [Bool.or_eq_false_iff, Option.isSome_eq_false_iff, Option.isNone_iff_eq_none] at other
  simp [plainValue, Scalar.resolve, other, integer, word]

end Yaml

open Yaml (Value plainValue plainValue_eq_string plainValue_eq_int readDocument)

lemma plainValue_version : plainValue "version" = .ok (.string "version") :=
  plainValue_eq_string (by decide +kernel)

lemma plainValue_one : plainValue "1" = .ok (.int 1) :=
  plainValue_eq_int (by decide +kernel) (by decide +kernel) (by decide)

/-- A document of either kind that says nothing but its version. -/
def versionText : String := "version: 1\n"

/-- The text is a document with a version and nothing else. -/
lemma readDocument_versionText :
    readDocument versionText = .ok (.mapping [(.string "version", .int 1)]) := by
  have events : Yaml.Event.ofString versionText =
      ([.documentStart, .start .mapping {}, .scalar "version" .plain {}, .scalar "1" .plain {},
        .finish, .documentEnd, .streamEnd], false) := by
    decide +kernel
  rw [readDocument, events]
  simp [Yaml.DocumentTree.build, Yaml.NodeBuilder.number, Yaml.NodeBuilder.add,
    Yaml.NodeBuilder.finish, Yaml.DocumentReader.node, Yaml.DocumentReader.content,
    Yaml.DocumentReader.mapping, Yaml.scalarValue, Yaml.untaggedValue, plainValue_version,
    plainValue_one, bind, Except.bind, pure, Except.pure, Value.hasKey, Yaml.depthLimit]

/-- As a state document it describes a state with nothing in it. -/
lemma parse_versionText : Network.State.parse versionText = .ok {} := by
  have bare : Value.lookup? Network.stateKey [(.string "version", .int 1)] = none := by
    simp [Value.lookup?, Value.same, Network.stateKey]
  unfold Network.State.parse
  rw [readDocument_versionText]
  change Network.State.ofDocument _ = _
  rw [Network.State.ofDocument, Network.State.stateOf_mapping bare]
  rfl

end TargetNet
