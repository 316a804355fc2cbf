import Mathlib.Data.List.Basic
import Mathlib.Tactic.Common
import TargetNet.Proofs.FileSystem.Changes
import TargetNet.Proofs.FileSystem.MakeDirectories
import TargetNet.Proofs.FileSystem.Write
import TargetNet.Proofs.Job
import TargetNet.Proofs.Path.Relative
import TargetNet.TargetFile

/-!
# Files of a target, looked up and written

The path of a file of a target goes on from the target with proper names (`targetPathIn_eq_ok`).
Where the directory of such a path is there, writing the file changes its entry or nothing at all
(`writeFile_spec`).
-/

namespace TargetNet

/-- A path is accepted exactly when it stays below the target, in its text and in the files. -/
lemma targetPathIn_eq_ok_iff {fs : FileSystem} {target relative path : Path} :
    targetPathIn fs target relative = .ok path ↔
      ∃ below, relative.relative = .ok below ∧ path = target.join below ∧
        fs.escapes target path = false := by
  rw [targetPathIn]
  cases relative.relative with
  | error reason => simp [bind, Except.bind]
  | ok below =>
    simp only [bind, Except.bind]
    split
    · rename_i out
      refine ⟨nofun, ?_⟩
      rintro ⟨_, e, rfl, inside⟩
      cases e
      cases out.symm.trans inside
    · rename_i inside
      refine ⟨?_, ?_⟩
      · intro h
        cases h
        exact ⟨below, rfl, rfl, by simpa using inside⟩
      · rintro ⟨_, e, rfl, -⟩
        cases e
        rfl

/-- What it takes for a path to be accepted: it goes on from the target with proper names. -/
lemma targetPathIn_eq_ok {fs : FileSystem} {target relative path : Path}
    (h : targetPathIn fs target relative = .ok path) :
    ∃ names, names ≠ [] ∧ (∀ name ∈ names, Path.IsProper name) ∧
      relative.relative = .ok (.ofNames names) ∧ path = target.join (.ofNames names) ∧
      fs.escapes target path = false := by
  obtain ⟨below, e, rfl, inside⟩ := targetPathIn_eq_ok_iff.1 h
  obtain ⟨names, ne, proper, rfl⟩ := Path.relative_eq_ok e
  exact ⟨names, ne, proper, e, rfl, inside⟩

/-- A path is accepted as the same one, whatever the files are. -/
lemma targetPathIn_unique {fs fs' : FileSystem} {target relative path path' : Path}
    (h : targetPathIn fs target relative = .ok path)
    (h' : targetPathIn fs' target relative = .ok path') : path' = path := by
  obtain ⟨below, e, rfl, -⟩ := targetPathIn_eq_ok_iff.1 h
  obtain ⟨below', e', rfl, -⟩ := targetPathIn_eq_ok_iff.1 h'
  cases e.symm.trans e'
  rfl

/-- A path that is refused ends the job. -/
lemma targetPath_of_error (ν : Type) {fs : FileSystem} {target relative : Path} {reason : PathError}
    (h : targetPathIn fs target relative = .error reason) :
    (targetPath target relative : Job ν Path) fs = ⟨.error (.path reason), fs, []⟩ := by
  simp [targetPath, Job.look, h, Except.mapError]

/-- A path that is accepted is returned, and nothing is changed. -/
lemma targetPath_of_ok (ν : Type) {fs : FileSystem} {target relative path : Path}
    (h : targetPathIn fs target relative = .ok path) :
    (targetPath target relative : Job ν Path) fs = ⟨.ok path, fs, []⟩ := by
  simp [targetPath, Job.look, h, Except.mapError]

/-- An accepted path ends in a proper name, with no slash after it. -/
lemma named_of_targetPathIn {fs : FileSystem} {target relative path : Path}
    (h : targetPathIn fs target relative = .ok path) :
    path.endsInSlash = false ∧ ∃ name, Path.IsProper name ∧ path.named.getLast? = some name := by
  obtain ⟨names, ne, proper, -, rfl, -⟩ := targetPathIn_eq_ok h
  have nonempty : (Path.ofNames names).bytes ≠ [] := by
    intro empty
    have := Path.named_ofNames ne proper
    rw [Path.named, empty] at this
    exact ne this.symm
  refine ⟨(Path.endsInSlash_join nonempty).trans (Path.endsInSlash_ofNames proper), ?_⟩
  rw [Path.named_join (Path.isAbsolute_ofNames proper), Path.named_ofNames ne proper,
    List.getLast?_append_of_ne_nil _ ne]
  exact ⟨_, proper _ (List.getLast_mem ne), List.getLast?_eq_some_getLast ne⟩

variable [Circumstances]

/-- Writing a file ends as its write does. -/
lemma writeFile_of_write {path parent : Path} {content : ByteArray} {mode : Nat}
    {fs files : FileSystem} {result : Except SystemError Unit} (hp : path.parent? = some parent)
    (hw : fs.write { path, parent, content, mode } = (files, result)) :
    (writeFile path content mode fs).result = result.mapError (.write path) ∧
      (writeFile path content mode fs).files = files := by
  rw [writeFile, hp]
  dsimp only
  generalize hc : Job.change _ = changing
  have ran : changing fs = ⟨result.mapError (.write path), files, []⟩ := by
    simp [← hc, Job.change, hw]
  cases result with
  | ok =>
    rw [Job.bind_of_ok (congrArg Done.result ran), ran]
    exact ⟨rfl, rfl⟩
  | error fault =>
    rw [Job.bind_of_error (congrArg Done.result ran), ran]
    exact ⟨rfl, rfl⟩

/-- Writing a file that succeeds was not disturbed at all. -/
lemma calm_of_writeFile {path : Path} {content : ByteArray} {mode : Nat} {fs : FileSystem}
    (h : (writeFile path content mode fs).result = .ok ()) :
    Circumstances.writing path = .none := by
  cases hp : path.parent? with
  | none =>
    rw [writeFile, hp] at h
    cases h
  | some parent =>
    cases hw : fs.write { path, parent, content, mode } with
    | mk files result =>
      rw [(writeFile_of_write hp hw).1, mapError_eq_ok_iff] at h
      subst h
      exact FileSystem.calm_of_write hw

/-- Writing a file whose directory is there changes the entry that its path names, or nothing. -/
theorem writeFile_spec {path : Path} {content : ByteArray} {mode : Nat} {fs : FileSystem}
    {directory : Location} {name : Name} {slash : Bool}
    (h : fs.locate path = .ok (directory, some name, slash)) :
    ((writeFile path content mode fs).result = .ok () ∧
      ∀ l, (writeFile path content mode fs).files.get? l =
        if l = directory ++ [name] then some (.file content (keptMode mode)) else fs.get? l) ∨
    (∃ error, (writeFile path content mode fs).result = .error error) ∧
      ∀ l, (writeFile path content mode fs).files.get? l = fs.get? l := by
  obtain ⟨parent, hp, found⟩ := FileSystem.locate_parent h
  have made := FileSystem.makeDirectories_of_directory found
  cases hw : fs.write { path, parent, content, mode } with
  | mk files result =>
    obtain ⟨ends, left⟩ := writeFile_of_write hp hw
    rw [ends, left]
    rcases FileSystem.write_spec hw with
      ⟨rfl, made', directory', name', hm, w⟩ | ⟨⟨fault, rfl⟩, view⟩
    · rw [made] at hm
      cases hm
      have := w.locate
      rw [h] at this
      cases this
      exact .inl ⟨rfl, w.get?⟩
    · refine .inr ⟨⟨_, rfl⟩, ?_⟩
      rcases view with view | view
      · exact view
      · rwa [made] at view

/-- A write whose directory is there and that is not disturbed succeeds, unless a directory is in the
place of its file. -/
lemma FileSystem.write_of_locate {fs : FileSystem} {write : FileWrite} {directory : Location}
    {name : Name} (calm : Circumstances.writing write.path = .none)
    (parent : write.path.parent? = some write.parent)
    (h : fs.locate write.path = .ok (directory, some name, false))
    (short : name.length ≤ Path.maxName)
    (free : fs.get? (directory ++ [name]) ≠ some .directory) :
    ∃ after, fs.write write = (after, .ok ()) := by
  obtain ⟨parent', hp, found⟩ := locate_parent h
  cases parent.symm.trans hp
  have parents : Draft.step write ⟨fs, none⟩ .parents = (⟨fs, none⟩, .ok ()) := by
    simp only [Draft.step, makeDirectories_of_directory found]
  obtain ⟨created, create⟩ : ∃ draft, Draft.step write ⟨fs, none⟩ .create = (draft, .ok ()) :=
    ⟨_, by simp only [Draft.step, found]; rfl⟩
  obtain ⟨place, staged⟩ := Draft.step_create create
  obtain ⟨filled, fill, staged'⟩ := staged.put write.content created.stagedFile.2
  obtain ⟨permitted, permit, finished⟩ := staged'.put filled.stagedFile.1 (keptMode write.mode)
  obtain ⟨published, publish⟩ := finished.publish_of_locate h short free
  have fill : Draft.step write created .fill = (filled, .ok ()) := fill
  have flush : Draft.step write filled .flush = (filled, .ok ()) := rfl
  have permit : Draft.step write filled .permit = (permitted, .ok ()) := permit
  have on (stage : WriteStage) : Circumstances.writing write.path stage = none :=
    congrFun calm stage
  have done : Draft.follow write ⟨fs, none⟩ WriteStage.all = (published, .ok ()) := by
    rw [WriteStage.all, Draft.follow_cons (on _) parents, Draft.follow_cons (on _) create,
      Draft.follow_cons (on _) fill, Draft.follow_cons (on _) flush,
      Draft.follow_cons (on _) permit, Draft.follow_cons (on _) publish, Draft.follow]
  exact ⟨published.files, by rw [FileSystem.write, done]⟩

/-- Writing a file succeeds in the same way. -/
lemma writeFile_of_locate {fs : FileSystem} {path : Path} {content : ByteArray} {mode : Nat}
    {directory : Location} {name : Name} (calm : Circumstances.writing path = .none)
    (h : fs.locate path = .ok (directory, some name, false))
    (short : name.length ≤ Path.maxName)
    (free : fs.get? (directory ++ [name]) ≠ some .directory) :
    (writeFile path content mode fs).result = .ok () := by
  obtain ⟨parent, hp, -⟩ := FileSystem.locate_parent h
  obtain ⟨after, hw⟩ : ∃ after, fs.write ⟨path, parent, content, mode⟩ = (after, .ok ()) :=
    FileSystem.write_of_locate calm hp h short free
  exact (writeFile_of_write hp hw).1

/-- Writing a file does not move the place where relative paths start. -/
lemma writeFile_current (path : Path) (content : ByteArray) (mode : Nat)
    (fs : FileSystem) : (writeFile path content mode fs).files.current = fs.current := by
  cases hp : path.parent? with
  | none =>
    rw [writeFile, hp]
    rfl
  | some parent =>
    rw [(writeFile_of_write hp rfl).2]
    exact FileSystem.write_current _ _

end TargetNet
