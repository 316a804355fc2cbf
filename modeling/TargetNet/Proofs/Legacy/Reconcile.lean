import Mathlib.Data.List.Basic
import Mathlib.Tactic.Common
import TargetNet.Legacy.Reconcile
import TargetNet.Proofs.FileSystem.Leaf
import TargetNet.Proofs.TargetFile

/-!
# What reconciling does

What the path of an artifact leads to is shipped, changed, unreadable or absent, and the inspection
finds out which (`finds_inspect`). Each finding has one lemma on what reconciling does then. Only a
shipped file is touched, and only at its own entry: `Remainder` says what is left there.
-/

namespace TargetNet.Legacy

/-- Only a shipped file calls for something to be done. -/
lemma Artifact.left_eq_none_iff {artifact : Artifact} {inspection : Inspection} :
    artifact.left inspection = none ↔ inspection = .asShipped := by
  cases inspection <;> simp [Artifact.left]

variable [Circumstances]

/-! ## What is found -/

/-- The path leads to a file with a text that may be read. -/
def Holds (fs : FileSystem) (path : Path) (text : String) : Prop :=
  ∃ location content mode, fs.resolve path = .ok location ∧
    fs.get? location = some (.file content mode) ∧ Circumstances.reading path mode = none ∧
    Text.Utf8.decode content = .ok text

/-- The path leads to a file with the lines that were shipped. -/
def Artifact.IsShipped (artifact : Artifact) (fs : FileSystem) (path : Path) : Prop :=
  ∃ text, Holds fs path text ∧ contentLinesOf text = artifact.expected

/-- The path leads to a file with other lines. -/
def Artifact.IsChanged (artifact : Artifact) (fs : FileSystem) (path : Path) : Prop :=
  ∃ text, Holds fs path text ∧ contentLinesOf text ≠ artifact.expected

/-- The path leads nowhere. -/
def IsAbsent (fs : FileSystem) (path : Path) : Prop :=
  fs.resolve path = .error .noEntry

/-- Where the path leads to is not known, or it is no file, or the file may not be read, or it holds no
text. -/
inductive IsUnreadable (fs : FileSystem) (path : Path) : Prop where
  | lost {fault} :
    fs.resolve path = .error fault →
    fault ≠ .noEntry →
    IsUnreadable fs path
  | noFile {location} :
    fs.resolve path = .ok location →
    (∀ content mode, fs.get? location ≠ some (.file content mode)) →
    IsUnreadable fs path
  | refused {location content mode fault} :
    fs.resolve path = .ok location →
    fs.get? location = some (.file content mode) →
    Circumstances.reading path mode = some fault →
    IsUnreadable fs path
  | noText {location content mode fault} :
    fs.resolve path = .ok location →
    fs.get? location = some (.file content mode) →
    Circumstances.reading path mode = none →
    Text.Utf8.decode content = .error fault →
    IsUnreadable fs path

/-- There is always something to find. -/
lemma finding (artifact : Artifact) (fs : FileSystem) (path : Path) :
    IsAbsent fs path ∨ IsUnreadable fs path ∨ artifact.IsChanged fs path ∨
      artifact.IsShipped fs path := by
  cases found : fs.resolve path with
  | error fault =>
    by_cases none : fault = .noEntry
    · subst none
      exact .inl found
    · exact .inr (.inl (.lost found none))
  | ok location =>
    right
    by_cases file : ∃ content mode, fs.get? location = some (.file content mode)
    · obtain ⟨content, mode, file⟩ := file
      cases readable : Circumstances.reading path mode with
      | some fault => exact .inl (.refused found file readable)
      | none =>
        cases decoded : Text.Utf8.decode content with
        | error fault => exact .inl (.noText found file readable decoded)
        | ok text =>
          have holds : Holds fs path text :=
            ⟨location, content, mode, found, file, readable, decoded⟩
          by_cases lines : contentLinesOf text = artifact.expected
          · exact .inr (.inr ⟨text, holds, lines⟩)
          · exact .inr (.inl ⟨text, holds, lines⟩)
    · exact .inl (.noFile found fun content mode e => file ⟨content, mode, e⟩)

lemma inspect_of_absent (artifact : Artifact) {fs : FileSystem} {path : Path}
    (h : IsAbsent fs path) : artifact.inspect fs path = .absent := by
  rw [Artifact.inspect, FileSystem.exists?, h]

/-- A file with a text is inspected by its lines. -/
lemma inspect_of_holds {artifact : Artifact} {fs : FileSystem} {path : Path} {text : String}
    (h : Holds fs path text) :
    artifact.inspect fs path =
      if contentLinesOf text = artifact.expected then .asShipped else .changed := by
  obtain ⟨location, content, mode, found, file, readable, decoded⟩ := h
  have read : fs.read path = .ok content := FileSystem.read_eq_ok_iff.2
    ⟨mode, FileSystem.find_eq_ok_iff.2 ⟨location, found, file⟩, readable⟩
  simp only [Artifact.inspect, FileSystem.exists?, found, read, decoded]

/-- What is unreadable is found so, in one of two ways. -/
lemma inspect_of_unreadable (artifact : Artifact) {fs : FileSystem} {path : Path}
    (h : IsUnreadable fs path) :
    ∃ fault, artifact.inspect fs path = .uninspectable fault ∨
      artifact.inspect fs path = .unreadable fault := by
  cases h with
  | @lost fault found other =>
    have lost : fs.exists? path = .error fault := by
      rw [FileSystem.exists?, found]
      split
      · rename_i e
        cases e
      · rename_i e
        exact absurd (Except.error.inj e) other
      · rename_i e
        exact congrArg Except.error (Except.error.inj e).symm
    refine ⟨fault, .inl ?_⟩
    rw [Artifact.inspect, lost]
  | @noFile location found other =>
    have unread : ∃ fault, fs.read path = .error fault := by
      rw [FileSystem.read, FileSystem.find, found]
      cases e : fs.get? location with
      | none => exact ⟨.noEntry, by simp [bind, Except.bind, e]⟩
      | some entry =>
        cases entry with
        | file content mode => exact absurd e (other content mode)
        | directory => exact ⟨.isDirectory, by simp [bind, Except.bind, e]⟩
        | link held => exact ⟨.isDirectory, by simp [bind, Except.bind, e]⟩
    obtain ⟨fault, unread⟩ := unread
    refine ⟨fault, .inr ?_⟩
    simp only [Artifact.inspect, FileSystem.exists?, found, unread]
  | @refused location content mode fault found file refused =>
    refine ⟨fault, .inr ?_⟩
    have unread : fs.read path = .error fault := by
      rw [FileSystem.read, FileSystem.find, found]
      simp [bind, Except.bind, file, refused]
    simp only [Artifact.inspect, FileSystem.exists?, found, unread]
  | @noText location content mode fault found file readable decoded =>
    refine ⟨.malformedText fault, .inr ?_⟩
    have read : fs.read path = .ok content := FileSystem.read_eq_ok_iff.2
      ⟨mode, FileSystem.find_eq_ok_iff.2 ⟨location, found, file⟩, readable⟩
    simp only [Artifact.inspect, FileSystem.exists?, found, read, decoded]

section

variable {artifact : Artifact} {fs : FileSystem} {path : Path}

/-- What was changed is found so. -/
lemma inspect_of_changed (h : artifact.IsChanged fs path) :
    artifact.inspect fs path = .changed := by
  obtain ⟨text, holds, lines⟩ := h
  rw [inspect_of_holds holds, if_neg lines]

/-- What is as it was shipped is found so. -/
lemma inspect_of_shipped (h : artifact.IsShipped fs path) :
    artifact.inspect fs path = .asShipped := by
  obtain ⟨text, holds, lines⟩ := h
  rw [inspect_of_holds holds, if_pos lines]

/-- What an inspection stands for. -/
def Artifact.Finds (artifact : Artifact) (fs : FileSystem) (path : Path) : Inspection → Prop
  | .absent => IsAbsent fs path
  | .uninspectable _ => IsUnreadable fs path
  | .unreadable _ => IsUnreadable fs path
  | .changed => artifact.IsChanged fs path
  | .asShipped => artifact.IsShipped fs path

/-- An inspection finds what it stands for. -/
lemma finds_inspect (artifact : Artifact) (fs : FileSystem) (path : Path) :
    artifact.Finds fs path (artifact.inspect fs path) := by
  rcases finding artifact fs path with h | h | h | h
  · rw [inspect_of_absent artifact h]
    exact h
  · obtain ⟨fault, e | e⟩ := inspect_of_unreadable artifact h <;> rw [e] <;> exact h
  · rw [inspect_of_changed h]
    exact h
  · rw [inspect_of_shipped h]
    exact h

/-- The inspection finds nothing if and only if nothing is there. -/
lemma inspect_eq_absent_iff (artifact : Artifact) :
    artifact.inspect fs path = .absent ↔ IsAbsent fs path := by
  refine ⟨fun e => ?_, inspect_of_absent artifact⟩
  have := finds_inspect artifact fs path
  rwa [e] at this

/-- The inspection finds a file unreadable if and only if it is. -/
lemma inspect_eq_unreadable_iff (artifact : Artifact) :
    (∃ fault, artifact.inspect fs path = .uninspectable fault ∨
      artifact.inspect fs path = .unreadable fault) ↔ IsUnreadable fs path := by
  refine ⟨?_, inspect_of_unreadable artifact⟩
  have := finds_inspect artifact fs path
  rintro ⟨fault, e | e⟩ <;> rwa [e] at this

/-- The inspection finds a file changed if and only if it is. -/
lemma inspect_eq_changed_iff :
    artifact.inspect fs path = .changed ↔ artifact.IsChanged fs path := by
  refine ⟨fun e => ?_, inspect_of_changed⟩
  have := finds_inspect artifact fs path
  rwa [e] at this

/-- The inspection finds a file as it was shipped if and only if it is. -/
lemma inspect_eq_asShipped_iff :
    artifact.inspect fs path = .asShipped ↔ artifact.IsShipped fs path := by
  refine ⟨fun e => ?_, inspect_of_shipped⟩
  have := finds_inspect artifact fs path
  rwa [e] at this

end

/-! ## What is done -/

/-- An entry is taken away if this is not refused and can be done. -/
lemma remains_eq_ok_iff {fs rest : FileSystem} {path : Path} :
    remains fs path = .ok rest ↔
      Circumstances.removing path = none ∧ fs.remove path = .ok rest := by
  rw [remains]
  cases Circumstances.removing path <;> simp

section

variable {target : Path} {artifact : Artifact} {fs : FileSystem}

/-- A refused path ends the run before anything is looked at. -/
lemma reconcile_of_refused {reason : PathError}
    (h : targetPathIn fs target artifact.path = .error reason) :
    reconcile target artifact fs = ⟨.error (.path reason), fs, []⟩ := by
  have refused := targetPath_of_error Note h
  rw [reconcile, Job.bind_of_error (congrArg Done.result refused), refused]

/-- A finding that leaves the file in place is reported. -/
lemma reconcile_of_left {path : Path} {outcome : Outcome} {detail : String}
    (h : targetPathIn fs target artifact.path = .ok path)
    (left : artifact.left (artifact.inspect fs path) = some (outcome, detail)) :
    reconcile target artifact fs =
      ⟨.ok outcome, fs, [.event (.reconciled path outcome detail)]⟩ := by
  have accepted := targetPath_of_ok Note h
  rw [reconcile, Job.bind_of_ok (congrArg Done.result accepted), accepted]
  dsimp only
  rw [Job.bind_of_ok (show (Job.look _ fs).result = .ok (artifact.inspect fs path) from rfl)]
  simp only [Job.look, left]
  rfl

/-- An artifact that is absent is reported as that. -/
lemma reconcile_of_absent {path : Path} (h : targetPathIn fs target artifact.path = .ok path)
    (absent : IsAbsent fs path) :
    reconcile target artifact fs =
      ⟨.ok .absent, fs, [.event (.reconciled path .absent "legacy config file not found")]⟩ :=
  reconcile_of_left h (by rw [inspect_of_absent artifact absent]; rfl)

/-- Nothing but a shipped file is touched. -/
lemma reconcile_of_not_shipped {path : Path} (h : targetPathIn fs target artifact.path = .ok path)
    (other : ¬ artifact.IsShipped fs path) : (reconcile target artifact fs).files = fs := by
  cases found : artifact.left (artifact.inspect fs path) with
  | some report => rw [reconcile_of_left h found]
  | none => exact absurd (inspect_eq_asShipped_iff.1 (Artifact.left_eq_none_iff.1 found)) other

/-- A file that cannot be removed ends the run. -/
lemma reconcile_of_stuck {path : Path} {fault : SystemError}
    (h : targetPathIn fs target artifact.path = .ok path)
    (shipped : artifact.inspect fs path = .asShipped)
    (fails : remains fs path = .error fault) :
    reconcile target artifact fs = ⟨.error (.file .remove path fault), fs, []⟩ := by
  have accepted := targetPath_of_ok Note h
  have removal : removeFile path fs = ⟨.error (.file .remove path fault), fs, []⟩ := by
    simp [removeFile, Job.change, fails]
  rw [reconcile, Job.bind_of_ok (congrArg Done.result accepted), accepted]
  dsimp only
  rw [Job.bind_of_ok (show (Job.look _ fs).result = .ok (artifact.inspect fs path) from rfl)]
  simp only [Job.look, shipped, Artifact.left]
  rw [Job.bind_of_error (congrArg Done.result removal), removal]
  rfl

/-- What annotating does: its text is written, and that this fails is reported. -/
lemma annotate_eq (path : Path) (text : String) (fs : FileSystem) :
    (annotate path text fs).result = .ok () ∧
      (annotate path text fs).files = (writeFile path text.toUTF8 configMode fs).files ∧
      Note.events (annotate path text fs).notes =
        match (writeFile path text.toUTF8 configMode fs).result with
        | .ok () => []
        | .error error => [.failure path ("Failed to write annotation: " ++ error.message)] := by
  rw [annotate, Job.bind_of_ok (show ((writeFile path text.toUTF8
    configMode).noting.attempt fs).result = .ok _ from rfl), Job.result_noting]
  cases (writeFile path text.toUTF8 configMode fs).result with
  | ok => exact ⟨rfl, rfl, by simp [Job.pure_apply]⟩
  | error error => exact ⟨rfl, rfl, by simp [Job.report_apply]⟩

/-- What is done once the file is removed. -/
lemma reconcile_of_removed {path : Path} {rest : FileSystem}
    (h : targetPathIn fs target artifact.path = .ok path)
    (shipped : artifact.inspect fs path = .asShipped) (removed : remains fs path = .ok rest) :
    reconcile target artifact fs =
      match artifact.policy with
      | .delete =>
        ⟨.ok .removed, rest,
          [.event (.reconciled path .removed "removed file with known contents")]⟩
      | .annotate text =>
        ⟨.ok .removedAndAnnotated, (annotate path text rest).files,
          (annotate path text rest).notes ++
            [.event (.reconciled path .removedAndAnnotated
              "removed file with known contents")]⟩ := by
  have accepted := targetPath_of_ok Note h
  have removal : removeFile path fs = ⟨.ok (), rest, []⟩ := by
    simp [removeFile, Job.change, removed]
  rw [reconcile, Job.bind_of_ok (congrArg Done.result accepted), accepted]
  dsimp only
  rw [Job.bind_of_ok (show (Job.look _ fs).result = .ok (artifact.inspect fs path) from rfl)]
  simp only [Job.look, shipped, Artifact.left]
  rw [Job.bind_of_ok (congrArg Done.result removal), removal]
  cases artifact.policy with
  | delete => rfl
  | annotate text =>
    dsimp only
    rw [Job.bind_of_ok (annotate_eq path text rest).1]
    rfl

end

/-! ## Only what was shipped is touched -/

/-- What is left in the place of a removed file, and what is reported of it: `rest` are the files
without it. -/
inductive Remainder (path : Path) (rest : FileSystem) :
    Policy → Option Entry → List Event → Prop where
  | deleted :
    Remainder path rest .delete none
      [.reconciled path .removed "removed file with known contents"]
  | annotated {text} :
    (writeFile path text.toUTF8 configMode rest).result = .ok () →
    Remainder path rest (.annotate text) (some (.file text.toUTF8 0o644))
      [.reconciled path .removedAndAnnotated "removed file with known contents"]
  | bare {text error} :
    (writeFile path text.toUTF8 configMode rest).result = .error error →
    Remainder path rest (.annotate text) none
      [.failure path ("Failed to write annotation: " ++ error.message),
        .reconciled path .removedAndAnnotated "removed file with known contents"]

/-- A removed entry is gone, or the annotation is in its place. -/
lemma Remainder.left_eq {path : Path} {rest : FileSystem} {policy : Policy} {left : Option Entry}
    {events : List Event} (h : Remainder path rest policy left events) :
    left = none ∨ ∃ text, policy = .annotate text ∧ left = some (.file text.toUTF8 0o644) := by
  cases h with
  | deleted => exact .inl rfl
  | annotated => exact .inr ⟨_, rfl, rfl⟩
  | bare => exact .inl rfl

/-- The path of a shipped file names an entry that leads there. -/
lemma isLeaf_of_shipped {artifact : Artifact} {target path : Path} {fs : FileSystem}
    (h : targetPathIn fs target artifact.path = .ok path) (shipped : artifact.IsShipped fs path) :
    ∃ directory name location, fs.locate path = .ok (directory, some name, false) ∧
      fs.resolve path = .ok location ∧ fs.IsLeaf directory name location := by
  obtain ⟨text, ⟨location, content, mode, found, file, -⟩, -⟩ := shipped
  obtain ⟨slashed, name, proper, last⟩ := named_of_targetPathIn h
  obtain ⟨directory, located, leaf⟩ := FileSystem.isLeaf_of_resolve found file slashed last proper
  exact ⟨directory, name, location, located, found, leaf⟩

/-- Removing a shipped file takes away the entry that its path names, and its directory stays. -/
lemma remains_of_shipped {artifact : Artifact} {target path : Path}
    {fs rest : FileSystem} (h : targetPathIn fs target artifact.path = .ok path)
    (shipped : artifact.IsShipped fs path) (removed : remains fs path = .ok rest) :
    ∃ directory name, fs.locate path = .ok (directory, some name, false) ∧
      rest = fs.erase (directory ++ [name]) ∧
      rest.locate path = .ok (directory, some name, false) := by
  obtain ⟨directory, name, location, located, -, leaf⟩ := isLeaf_of_shipped h shipped
  have erased : rest = fs.erase (directory ++ [name]) :=
    Except.ok.inj ((remains_eq_ok_iff.1 removed).2.symm.trans
      (FileSystem.remove_of_isLeaf located leaf))
  refine ⟨directory, name, located, erased, ?_⟩
  rw [erased]
  exact FileSystem.locate_erase located leaf

/-- A shipped file is removed and, if that is the policy, annotated: nothing but the entry at its
path is touched. -/
lemma reconcile_of_shipped
    {target path : Path} {artifact : Artifact} {fs rest : FileSystem}
    (h : targetPathIn fs target artifact.path = .ok path)
    (shipped : artifact.IsShipped fs path) (removed : remains fs path = .ok rest) :
    ∃ directory name left events, fs.locate path = .ok (directory, some name, false) ∧
      (reconcile target artifact fs).result = .ok artifact.policy.outcome ∧
      (∀ l, (reconcile target artifact fs).files.get? l =
        if l = directory ++ [name] then left else fs.get? l) ∧
      Note.events (reconcile target artifact fs).notes = events ∧
      Remainder path rest artifact.policy left events := by
  obtain ⟨directory, name, located, rfl, kept⟩ := remains_of_shipped h shipped removed
  have asShipped := inspect_of_shipped shipped
  have ne : directory ++ [name] ≠ [] := by simp
  have gone (l : Location) : (fs.erase (directory ++ [name])).get? l =
      if l = directory ++ [name] then none else fs.get? l := by
    split
    · rename_i e
      rw [e]
      exact fs.get?_erase_self ne
    · rename_i other
      exact fs.get?_erase_of_ne other
  rw [reconcile_of_removed h asShipped removed]
  cases artifact.policy with
  | delete => exact ⟨directory, name, none, _, located, rfl, gone, rfl, .deleted⟩
  | annotate note =>
    obtain ⟨-, files, events⟩ :=
      annotate_eq path note (fs.erase (directory ++ [name]))
    dsimp only
    rw [files, Note.events_append, events]
    -- the directory is found as before, so no other is made for the annotation
    rcases writeFile_spec kept with ⟨ok, view⟩ | ⟨⟨error, failed⟩, view⟩
    · rw [ok]
      refine ⟨directory, name, some (.file note.toUTF8 0o644), _, located, rfl, ?_, rfl,
        .annotated ok⟩
      intro l
      rw [view, gone]
      split <;> rfl
    · rw [failed]
      exact ⟨directory, name, none, _, located, rfl, fun l => (view l).trans (gone l), rfl,
        .bare failed⟩

/-- Reconciling does not change the current directory. -/
lemma reconcile_current (target : Path) (artifact : Artifact) (fs : FileSystem) :
    (reconcile target artifact fs).files.current = fs.current := by
  cases accepted : targetPathIn fs target artifact.path with
  | error reason => rw [reconcile_of_refused accepted]
  | ok path =>
    cases found : artifact.left (artifact.inspect fs path) with
    | some report => rw [reconcile_of_left accepted found]
    | none =>
      have asShipped := Artifact.left_eq_none_iff.1 found
      cases removal : remains fs path with
      | error fault => rw [reconcile_of_stuck accepted asShipped removal]
      | ok rest =>
        obtain ⟨directory, name, -, rfl, -⟩ :=
          remains_of_shipped accepted (inspect_eq_asShipped_iff.1 asShipped) removal
        rw [reconcile_of_removed accepted asShipped removal]
        cases artifact.policy with
        | delete => rfl
        | annotate text =>
          dsimp only
          rw [(annotate_eq path text _).2.1]
          exact writeFile_current _ _ _ _

/-- Reconciling that fails has done nothing and reported nothing. -/
lemma reconcile_error {target : Path}
    {artifact : Artifact} {fs : FileSystem} {error : Error}
    (h : (reconcile target artifact fs).result = .error error) :
    reconcile target artifact fs = ⟨.error error, fs, []⟩ := by
  cases accepted : targetPathIn fs target artifact.path with
  | error reason =>
    rw [reconcile_of_refused accepted] at h ⊢
    cases h
    rfl
  | ok path =>
    cases found : artifact.left (artifact.inspect fs path) with
    | some report =>
      rw [reconcile_of_left accepted found] at h
      cases h
    | none =>
      have asShipped := Artifact.left_eq_none_iff.1 found
      cases removal : remains fs path with
      | error fault =>
        rw [reconcile_of_stuck accepted asShipped removal] at h ⊢
        cases h
        rfl
      | ok rest =>
        obtain ⟨-, -, -, -, -, result, -⟩ := reconcile_of_shipped accepted
          (inspect_eq_asShipped_iff.1 asShipped) removal
        rw [result] at h
        cases h

/-- Whatever the circumstances, reconciling does not lose what a user wrote. A refused path ends the
run with nothing done. An accepted path is touched only if it leads to a file with exactly the lines
that were shipped, and then only its own entry is: it is gone, or the annotation has taken its place.
In all other cases nothing changes, and the outcome tells what was found. -/
theorem reconcile_keeps_user_content (target : Path) (artifact : Artifact) (fs : FileSystem) :
    (∀ reason, targetPathIn fs target artifact.path = .error reason →
      (reconcile target artifact fs).Shows (.error (.path reason)) fs []) ∧
    ∀ path, targetPathIn fs target artifact.path = .ok path →
      ∀ done, reconcile target artifact fs = done →
        (done.files ≠ fs → artifact.IsShipped fs path ∧ ∃ rest, remains fs path = .ok rest) ∧
        (∀ rest, artifact.IsShipped fs path → remains fs path = .ok rest →
          done.result = .ok artifact.policy.outcome ∧
          ∃ directory name left, fs.locate path = .ok (directory, some name, false) ∧
            (∀ l, done.files.get? l = if l = directory ++ [name] then left else fs.get? l) ∧
            Remainder path rest artifact.policy left (Note.events done.notes)) ∧
        (done.result = .ok .absent ↔ IsAbsent fs path) ∧
        (done.result = .ok .unreadable ↔ IsUnreadable fs path) ∧
        (done.result = .ok .preserved ↔ artifact.IsChanged fs path) ∧
        ((∃ error, done.result = .error error) ↔
          artifact.IsShipped fs path ∧ ∃ fault, remains fs path = .error fault) := by
  refine ⟨?_, ?_⟩
  · intro reason refused
    rw [reconcile_of_refused refused]
    exact ⟨rfl, rfl, rfl⟩
  · rintro path h done rfl
    -- the inspection is all that the run decides on, and it tells the findings apart
    rw [← inspect_eq_absent_iff artifact, ← inspect_eq_unreadable_iff artifact,
      ← inspect_eq_changed_iff, ← inspect_eq_asShipped_iff]
    cases found : artifact.inspect fs path with
    | absent =>
      rw [reconcile_of_left h (by rw [found]; rfl)]
      simp
    | uninspectable fault =>
      rw [reconcile_of_left h (by rw [found]; rfl)]
      simp
    | unreadable fault =>
      rw [reconcile_of_left h (by rw [found]; rfl)]
      simp
    | changed =>
      rw [reconcile_of_left h (by rw [found]; rfl)]
      simp
    | asShipped =>
      cases removal : remains fs path with
      | error fault =>
        rw [reconcile_of_stuck h found removal]
        simp
      | ok rest =>
        have shipped := inspect_eq_asShipped_iff.1 found
        obtain ⟨directory, name, left, events, located, result, view, reported, remainder⟩ :=
          reconcile_of_shipped h shipped removal
        rw [reported, result]
        refine ⟨fun _ => ⟨rfl, rest, rfl⟩, ?_, ?_⟩
        · rintro _ - ⟨⟩
          exact ⟨rfl, directory, name, left, located, view, remainder⟩
        · cases artifact.policy <;> simp [Policy.outcome]

end TargetNet.Legacy
