import Mathlib.Data.List.Basic
import Mathlib.Tactic.Common
import TargetNet.CommandLine
import TargetNet.Proofs.Apply
import TargetNet.Proofs.Network.Accepted
import TargetNet.Proofs.Network.Source

/-!
# State files

Saving a state writes its text, and loading it reads this text again, if it may be read, unless the
path leads through the link that the file takes the place of (`Network.CutsOff`). What this takes of
YAML is that the text of a state says what it was written from (`State.TextReadsBack`).
-/

namespace TargetNet

open Yaml (Value)

namespace Network

/-- The text of a state is a document with what the state was written as, marks of tags apart. -/
def State.TextReadsBack (state : State) : Prop :=
  ∀ text, state.text = .ok text →
    ∃ document, Yaml.readDocument text = .ok document ∧ document.unmark = state.toValue.unmark

/-- A state whose tags are all settled. -/
def State.IsSettled (state : State) : Prop :=
  state.AllParams fun value => value.isSettled

/-! ## The text of a state -/

/-- The text of a valid state is accepted, with a mark less on every tag. -/
lemma State.parse_text {state : State} {text : String} (readable : state.IsReadable)
    (valid : state.validate = .ok ()) (reads : state.TextReadsBack) (h : state.text = .ok text) :
    State.parse text = .ok state.unmark := by
  obtain ⟨document, read, same⟩ := reads text h
  unfold State.parse
  rw [read]
  exact State.ofDocument_of_unmark readable valid same

/-- Settled tags have no marks that count. -/
lemma Params.unmark_same {params : Params} (settled : params.All fun value => value.isSettled) :
    params.unmark.same params := by
  have names : params.unmark.entries.map (·.1) = params.entries.map (·.1) := by
    rw [Params.unmark, List.map_map]
    rfl
  have values : params.unmark.entries.map (·.2) = Value.unmarkItems (params.entries.map (·.2)) := by
    rw [Params.unmark, Value.unmarkItems_eq_map, List.map_map, List.map_map]
    rfl
  have all : Value.areSettled (params.entries.map (·.2)) := by
    rw [Value.areSettled_iff]
    exact List.forall_mem_map.2 settled
  rw [Params.same, names, values, beq_self_eq_true, Bool.true_and]
  exact Value.unmarkItems_same all

/-- Settled tags have no marks that count. -/
lemma State.unmark_same {state : State} (settled : state.IsSettled) :
    state.unmark.same state := by
  obtain ⟨version, interfaces, routes, dns⟩ := state
  have each : sameInterfaces (interfaces.map Interface.unmark) interfaces := by
    induction interfaces with
    | nil => rfl
    | cons interface rest ih =>
      obtain ⟨first, others⟩ := List.forall_mem_cons.1 settled
      have params : interface.unmark.params.same interface.params := Params.unmark_same first
      rw [List.map_cons, sameInterfaces, ih others, Interface.same, params]
      simp [Interface.unmark]
  simp [State.same, State.unmark, each]

/-! ## The file of a state -/

section

variable [Circumstances]

/-- A file with a text in UTF-8 is read as this text. -/
lemma readFile_result {path : Path} {fs : FileSystem} {text : String} (operation : FileOperation)
    (h : fs.read path = .ok text.toUTF8) : (readFile operation path fs).result = .ok text := by
  have found : fs.readText path = .ok text := by
    simp only [FileSystem.readText, h, bind, Except.bind, Text.Utf8.decode_toUTF8]
  rw [readFile, Job.look, found]
  rfl

/-- Loading a state gives what its file describes. -/
lemma loadState_result {path : Path} {fs : FileSystem} {text : String}
    (h : fs.read path = .ok text.toUTF8) :
    (loadState path fs).result = (State.parse text).mapError .document := by
  have read := readFile_result .readState h
  rw [loadState, Job.bind_of_ok rfl]
  change ((readFile .readState path >>= fun text =>
    Job.ofExcept ((State.parse text).mapError .document)) fs).result = _
  rw [Job.bind_of_ok read]
  rfl

/-- Saving a state with a text is writing this text. -/
lemma saveState_of_text {state : State} {text : String} (h : state.text = .ok text)
    (path : Path) (fs : FileSystem) :
    saveState state path fs = writeFile path text.toUTF8 configMode fs := by
  have start : (Job.ofExcept state.text : Job Remark String) fs = ⟨.ok text, fs, []⟩ :=
    congrArg (Done.mk · fs []) h
  rw [saveState, Job.bind_of_ok (congrArg Done.result start), start]
  rfl

/-- Saving a state that succeeds puts its text in place. -/
lemma saveState_eq_ok {state : State} {path : Path} {fs : FileSystem}
    (h : (saveState state path fs).result = .ok ()) :
    ∃ text parent made directory name, state.text = .ok text ∧ path.parent? = some parent ∧
      fs.makeDirectories parent = (made, .ok ()) ∧
      FileSystem.Written made (saveState state path fs).files
        ⟨path, parent, text.toUTF8, configMode⟩ directory name := by
  obtain ⟨text, ht, -⟩ := (Job.bind_ok_iff _ _ _ _).1 h
  rw [saveState_of_text ht] at h ⊢
  cases hp : path.parent? with
  | none =>
    rw [writeFile, hp] at h
    cases h
  | some parent =>
    cases hw : fs.write ⟨path, parent, text.toUTF8, configMode⟩ with
    | mk after result =>
      obtain ⟨ends, left⟩ := writeFile_of_write hp hw
      rcases FileSystem.write_spec hw with ⟨-, made, directory, name, hm, w⟩ | ⟨⟨fault, rfl⟩, -⟩
      · rw [left]
        exact ⟨text, parent, made, directory, name, ht, rfl, hm, w⟩
      · rw [ends] at h
        cases h

/-- Saving under a path takes away a link that the path itself leads through. -/
def CutsOff (fs : FileSystem) (path : Path) : Prop :=
  ∃ parent, path.parent? = some parent ∧ (fs.makeDirectories parent).1.DoublesBack path

/-- The text of a saved state is read again, if this is allowed and the path is not cut off by it. -/
lemma read_saveState {state : State} {path : Path} {fs : FileSystem}
    (allowed : Circumstances.reading path configMode = none) (straight : ¬ CutsOff fs path)
    (saved : (saveState state path fs).result = .ok ()) :
    ∃ text, state.text = .ok text ∧
      (saveState state path fs).files.read path = .ok text.toUTF8 := by
  obtain ⟨text, parent, made, directory, name, ht, hp, hm, w⟩ := saveState_eq_ok saved
  refine ⟨text, ht, w.read (fun doubles => straight ⟨parent, hp, ?_⟩) allowed⟩
  rw [hm]
  exact doubles

/-- A state whose path is cut off by its file is not found again. -/
lemma loadState_of_cutsOff {state : State} {path : Path} {fs : FileSystem} (cut : CutsOff fs path)
    (saved : (saveState state path fs).result = .ok ()) :
    ∃ error, (loadState path (saveState state path fs).files).result = .error error := by
  obtain ⟨text, parent, made, directory, name, ht, hp, hm, w⟩ := saveState_eq_ok saved
  obtain ⟨parent', hp', doubles⟩ := cut
  cases hp.symm.trans hp'
  rw [hm] at doubles
  obtain ⟨fault, unread⟩ := w.read_of_doublesBack doubles
  have read : (readFile .readState path (saveState state path fs).files).result =
      .error (.file .readState path fault) := by
    rw [readFile, Job.look, FileSystem.readText, unread]
    rfl
  refine ⟨.file .readState path fault, ?_⟩
  rw [loadState, Job.bind_of_ok rfl]
  generalize (saveState state path fs).files = files at read ⊢
  change ((readFile .readState path >>= fun text =>
    Job.ofExcept ((State.parse text).mapError .document)) files).result = _
  rw [Job.bind_of_error read]

/-- A valid state is loaded as it was saved, with a mark less on every tag. -/
lemma loadState_saveState {state : State} {path : Path} {fs : FileSystem}
    (readable : state.IsReadable) (valid : state.validate = .ok ()) (reads : state.TextReadsBack)
    (allowed : Circumstances.reading path configMode = none) (straight : ¬ CutsOff fs path)
    (saved : (saveState state path fs).result = .ok ()) :
    (loadState path (saveState state path fs).files).result = .ok state.unmark := by
  obtain ⟨text, ht, read⟩ := read_saveState allowed straight saved
  rw [loadState_result read, State.parse_text readable valid reads ht]
  rfl

end

end Network

/-- A place with a directory, a link to it, and a config file. -/
def linkedPlace : FileSystem where
  entries :=
    [(.ofStrings ["d"], .directory), (.ofStrings ["l"], .link (.ofString "d")),
      (.ofStrings ["config"], .file versionText.toUTF8 0o644)]
  current := []

/-- A path around through the very link that it names. -/
def roundPath : Path := .ofString "l/../l"

section

variable [Circumstances] {configFile path : Path} {fs : FileSystem} {state : Network.State}

/-- A config that gives no state ends the command with nothing done. -/
lemma netState_of_unloaded {error : Error}
    (loaded : (Network.loadConfig configFile fs).result = .error error) :
    (netState configFile path fs).result =
        .ok (.failure (some ("Failed to parse " ++ configFile.display)) error) ∧
      (netState configFile path fs).files = fs := by
  have first : ((Network.loadConfig configFile).noting.attempt fs).result = .ok (.error error) :=
    congrArg Except.ok loaded
  rw [netState, Job.bind_of_ok first]
  exact ⟨rfl, Network.resolve_onlyLooks none (some configFile) fs⟩

/-- A config is turned into a state file by saving its state. -/
lemma netState_of_loaded (path : Path)
    (loaded : (Network.loadConfig configFile fs).result = .ok state) :
    (netState configFile path fs).result =
        .ok (match (Network.saveState state path fs).result with
          | .ok () => .success (stateWritten state path)
          | .error error => .failure none error) ∧
      (netState configFile path fs).files = (Network.saveState state path fs).files := by
  have looks : ((Network.loadConfig configFile).noting.attempt fs).files = fs :=
    Network.resolve_onlyLooks none (some configFile) fs
  have first : ((Network.loadConfig configFile).noting.attempt fs).result = .ok (.ok state) :=
    congrArg Except.ok loaded
  rw [netState, Job.bind_of_ok first, looks]
  dsimp only
  cases saved : (Network.saveState state path fs).result with
  | error error =>
    have second : ((Network.saveState state path).noting.attempt fs).result =
        .ok (.error error) := congrArg Except.ok saved
    rw [Job.bind_of_ok second]
    exact ⟨rfl, rfl⟩
  | ok =>
    have second : ((Network.saveState state path).noting.attempt fs).result =
        .ok (.ok ()) := congrArg Except.ok saved
    rw [Job.bind_of_ok second]
    exact ⟨rfl, rfl⟩

/-- Translating a config succeeds if its state is saved, and leaves the files as saving does. -/
lemma netState_of_saved
    (loaded : (Network.loadConfig configFile fs).result = .ok state)
    (saved : (Network.saveState state path fs).result = .ok ()) :
    (netState configFile path fs).result = .ok (.success (stateWritten state path)) ∧
      (netState configFile path fs).files = (Network.saveState state path fs).files := by
  obtain ⟨result, files⟩ := netState_of_loaded path loaded
  rw [saved] at result
  exact ⟨result, files⟩

/-- Turning a config into a state file ends well only if the state of the config is saved. -/
lemma exists_of_netState {output : String}
    (h : (netState configFile path fs).result = .ok (.success output)) :
    ∃ state, (Network.loadConfig configFile fs).result = .ok state ∧
      (Network.saveState state path fs).result = .ok () := by
  cases loaded : (Network.loadConfig configFile fs).result with
  | error error =>
    rw [(netState_of_unloaded loaded).1] at h
    cases h
  | ok state =>
    rw [(netState_of_loaded path loaded).1] at h
    refine ⟨state, rfl, ?_⟩
    cases saved : (Network.saveState state path fs).result with
    | error error =>
      rw [saved] at h
      cases h
    | ok => rfl

end

end TargetNet
