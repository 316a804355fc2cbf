import Mathlib.Data.List.Basic
import Mathlib.Tactic.Common
import TargetNet.Hook
import TargetNet.Proofs.FileSystem.Landing
import TargetNet.Proofs.FileSystem.Leads
import TargetNet.Proofs.TargetFile
import TargetNet.Renderer

/-!
# Writes below a target

Rendering and installing hooks are both lists of writes below a target (`standard_follows`,
`installAll_follows`). One such write puts its file at the landing of its path, or leaves behind no more
than directories on the way to it (`TargetWrite.run_lands`).
-/

namespace TargetNet

/-- A file to write below a target. -/
structure TargetWrite where
  path : Path
  content : ByteArray
  mode : Nat

variable [Circumstances]

namespace TargetWrite

/-- Puts the file in place, if its path is accepted. -/
def run (target : Path) (write : TargetWrite) : Job Remark Unit := do
  let path ← targetPath target write.path
  writeFile path write.content write.mode

/-- The files after some writes in order, up to one that fails. -/
def filesAfter (target : Path) : List TargetWrite → FileSystem → FileSystem
  | [], fs => fs
  | write :: rest, fs =>
    match (write.run target fs).result with
    | .ok () => filesAfter target rest (write.run target fs).files
    | .error _ => (write.run target fs).files

/-- All of some writes succeed, one after another. -/
def AllSucceed (target : Path) : List TargetWrite → FileSystem → Prop
  | [], _ => True
  | write :: rest, fs =>
    (write.run target fs).result = .ok () ∧ AllSucceed target rest (write.run target fs).files

/-- A job does what some writes do: it leaves the same files, and it succeeds if all of them do. -/
structure Follows {ν α : Type} (target : Path) (writes : List TargetWrite) (job : Job ν α)
    (fs : FileSystem) : Prop where
  files : (job fs).files = filesAfter target writes fs
  result : (∃ a, (job fs).result = .ok a) ↔ AllSucceed target writes fs

/-- A write to a path that is refused does nothing. -/
lemma run_of_refused {target : Path} (write : TargetWrite) {fs : FileSystem} {reason : PathError}
    (h : targetPathIn fs target write.path = .error reason) :
    write.run target fs = ⟨.error (.path reason), fs, []⟩ := by
  have refused := targetPath_of_error Remark h
  rw [run, Job.bind_of_error (congrArg Done.result refused), refused]

/-- A write to a path that is accepted is one of a file. -/
lemma run_of_accepted {target path : Path} (write : TargetWrite) {fs : FileSystem}
    (h : targetPathIn fs target write.path = .ok path) :
    write.run target fs = writeFile path write.content write.mode fs := by
  have accepted := targetPath_of_ok Remark h
  rw [run, Job.bind_of_ok (congrArg Done.result accepted), accepted]
  rfl

variable {fs : FileSystem} {target : Path} {base : Location} {write : TargetWrite}

/-- The path of a write that succeeds is accepted. -/
lemma accepted_of_run (succeeds : (write.run target fs).result = .ok ()) :
    ∃ path, targetPathIn fs target write.path = .ok path := by
  cases accepted : targetPathIn fs target write.path with
  | error reason =>
    rw [run_of_refused write accepted] at succeeds
    cases succeeds
  | ok path => exact ⟨path, rfl⟩

/-- A write below a target puts its file at its landing, in the directories that were missing, or it
leaves behind no more than some of these directories. -/
theorem run_lands (tree : fs.IsTree) (leads : fs.Leads target base) {names : List Name}
    {last : Name} (proper : ∀ name ∈ names ++ [last], Path.IsProper name)
    (h : write.path.relative = .ok (.ofNames (names ++ [last]))) :
    ∃ new made, new <+: (fs.foothold base names).2 ∧
      fs.Grown (fs.foothold base names).1 new made ∧
      (((write.run target fs).result = .ok () ∧ new = (fs.foothold base names).2 ∧
          ∃ parent, FileSystem.Written made (write.run target fs).files
            ⟨target.join (.ofNames (names ++ [last])), parent, write.content, write.mode⟩
            ((fs.foothold base names).1 ++ (fs.foothold base names).2) last) ∨
        (∃ error, (write.run target fs).result = .error error) ∧
          ∀ l, (write.run target fs).files.get? l = made.get? l) := by
  cases accepted : targetPathIn fs target write.path with
  | error reason =>
    rw [run_of_refused write accepted]
    exact ⟨[], fs, List.nil_prefix, .nil, .inr ⟨⟨_, rfl⟩, fun _ => rfl⟩⟩
  | ok path =>
    obtain ⟨names', -, -, h', rfl, -⟩ := targetPathIn_eq_ok accepted
    rw [h] at h'
    rw [run_of_accepted write accepted, ← Except.ok.inj h']
    have on := leads.goesOn (by simp) proper
    obtain ⟨parent, hp, -⟩ := on.parent
    cases hw : fs.write ⟨_, parent, write.content, write.mode⟩ with
    | mk after result =>
      obtain ⟨ends, left⟩ := writeFile_of_write hp hw
      rw [ends, left]
      obtain ⟨new, made, before, grown, done⟩ :=
        FileSystem.write_lands tree leads.directory on hp hw
      refine ⟨new, made, before, grown, ?_⟩
      rcases done with ⟨rfl, all, written⟩ | ⟨⟨fault, rfl⟩, view⟩
      · exact .inl ⟨rfl, all, parent, written⟩
      · exact .inr ⟨⟨_, rfl⟩, view⟩

end TargetWrite

/-! ## Rendering and installing -/

/-- A hook as a file to write. -/
def Hook.asWrite (hook : Hook) : TargetWrite :=
  ⟨hook.path, hook.content.toUTF8, hook.mode⟩

/-- The files that rendering writes. -/
def Renderer.writes (state : Network.State) (postupAlias : Bool) : List TargetWrite :=
  [⟨interfacesPath, (Interfaces.render postupAlias state).toUTF8, configMode⟩,
    ⟨rulesPath, (UdevRules.render state).toUTF8, configMode⟩,
    ⟨switchPath, switchText.toUTF8, configMode⟩]

/-- A job that does what a write does, and goes on with what the other writes do. -/
lemma TargetWrite.Follows.cons {ν α β : Type} {target : Path} {write : TargetWrite}
    {rest : List TargetWrite} {fs : FileSystem} {first : Job ν α} {next : α → Job ν β}
    (one : Follows target [write] first fs) (on : ∀ a files, Follows target rest (next a) files) :
    Follows target (write :: rest) (first >>= next) fs := by
  have files : (first fs).files = (write.run target fs).files := by
    rw [one.files, filesAfter]
    split <;> rfl
  cases result : (first fs).result with
  | error error =>
    have fails : (write.run target fs).result ≠ .ok () := by
      intro ok
      obtain ⟨a, succeeds⟩ := one.result.2 ⟨ok, trivial⟩
      cases result.symm.trans succeeds
    refine ⟨?_, ?_⟩
    · rw [Job.bind_of_error result, filesAfter]
      dsimp only
      split
      · rename_i ok
        exact absurd ok fails
      · exact files
    · rw [Job.bind_of_error result]
      simp [AllSucceed, fails]
  | ok a =>
    have ok : (write.run target fs).result = .ok () := (one.result.1 ⟨a, result⟩).1
    have others := on a (write.run target fs).files
    refine ⟨?_, ?_⟩
    · rw [Job.bind_of_ok result, filesAfter, ok, files]
      exact others.files
    · rw [Job.bind_of_ok result, files, AllSucceed]
      exact ⟨fun h => ⟨ok, others.result.1 h⟩, fun h => others.result.2 h.2⟩

/-- A job with the files and the success of one write does what it does. -/
lemma TargetWrite.Follows.of_run {ν α : Type} {target : Path} {write : TargetWrite}
    {fs : FileSystem} {job : Job ν α} (files : (job fs).files = (write.run target fs).files)
    (result : (∃ a, (job fs).result = .ok a) ↔ (write.run target fs).result = .ok ()) :
    Follows target [write] job fs := by
  refine ⟨?_, ?_⟩
  · rw [files, filesAfter]
    split <;> rfl
  · rw [result, AllSucceed, AllSucceed, and_true]

/-- What comes after the writes may give another value, if it leaves the files alone. -/
lemma TargetWrite.Follows.andThen {ν α β : Type} {target : Path} {writes : List TargetWrite}
    {fs : FileSystem} {job : Job ν α} {next : α → Job ν β} (follows : Follows target writes job fs)
    (on : ∀ a files, ∃ b notes, next a files = ⟨.ok b, files, notes⟩) :
    Follows target writes (job >>= next) fs := by
  obtain ⟨files, result⟩ := follows
  cases ends : (job fs).result with
  | error error =>
    rw [ends] at result
    refine ⟨?_, ?_⟩ <;> rw [Job.bind_of_error ends]
    · exact files
    · rw [← result]
      simp
  | ok a =>
    rw [ends] at result
    obtain ⟨b, notes, e⟩ := on a (job fs).files
    refine ⟨?_, ?_⟩ <;> rw [Job.bind_of_ok ends, e]
    · exact files
    · rw [← result]
      simp

namespace Hook

variable {target path : Path} {fs : FileSystem} {hook : Hook} {error : Error}

/-- What is seen of writing a hook to its accepted path is what the write does. -/
lemma shows_writeFile (accepted : targetPathIn fs target hook.path = .ok path) :
    ((writeFile path hook.content.toUTF8 hook.mode).noting fs).Shows
      (hook.asWrite.run target fs).result (hook.asWrite.run target fs).files [] := by
  rw [TargetWrite.run_of_accepted hook.asWrite accepted]
  exact ⟨rfl, rfl, Job.events_noting _ fs⟩

/-- A hook that is written is reported, and its path is returned. -/
lemma install_shows (accepted : targetPathIn fs target hook.path = .ok path)
    (succeeds : (hook.asWrite.run target fs).result = .ok ()) :
    (hook.install target fs).Shows (.ok path) (hook.asWrite.run target fs).files
      [.hookInstalled path] := by
  have written := shows_writeFile accepted
  rw [succeeds] at written
  have reads := targetPath_of_ok Note accepted
  rw [install, Job.bind_of_ok (congrArg Done.result reads), reads]
  exact Job.shows_bind_of_ok written ⟨rfl, rfl, rfl⟩

/-- A hook that is not written is not reported, and the error is that of the write. -/
lemma install_shows_error (fails : (hook.asWrite.run target fs).result = .error error) :
    (hook.install target fs).Shows (.error error) (hook.asWrite.run target fs).files [] := by
  cases accepted : targetPathIn fs target hook.path with
  | error reason =>
    rw [TargetWrite.run_of_refused hook.asWrite accepted] at fails ⊢
    cases fails
    have refused := targetPath_of_error Note accepted
    rw [install, Job.bind_of_error (congrArg Done.result refused), refused]
    exact ⟨rfl, rfl, rfl⟩
  | ok path =>
    have written := shows_writeFile accepted
    rw [fails] at written
    have reads := targetPath_of_ok Note accepted
    rw [install, Job.bind_of_ok (congrArg Done.result reads), reads]
    exact Job.shows_bind_of_error written _

/-- Installing a hook writes it. -/
lemma install_follows (target : Path) (hook : Hook) (fs : FileSystem) :
    TargetWrite.Follows target [hook.asWrite] (hook.install target) fs := by
  cases ends : (hook.asWrite.run target fs).result with
  | error error =>
    have shows := install_shows_error ends
    refine .of_run shows.files ?_
    rw [shows.result, ends]
    simp
  | ok =>
    obtain ⟨path, accepted⟩ := TargetWrite.accepted_of_run ends
    have shows := install_shows accepted ends
    refine .of_run shows.files ?_
    rw [shows.result, ends]
    simp

/-- Installing hooks writes them in order. -/
lemma installAll_follows (target : Path) (hooks : List Hook) (fs : FileSystem) :
    TargetWrite.Follows target (hooks.map asWrite) (installAll target hooks) fs := by
  induction hooks generalizing fs with
  | nil => exact ⟨rfl, fun _ => trivial, fun _ => ⟨[], rfl⟩⟩
  | cons hook rest ih =>
    exact .cons (hook.install_follows target fs) fun path files =>
      (ih files).andThen fun paths files => ⟨path :: paths, [], rfl⟩

/-- The files after installing hooks are those after writing them. -/
lemma installAll_files (target : Path) (hooks : List Hook) (fs : FileSystem) :
    (installAll target hooks fs).files =
      TargetWrite.filesAfter target (hooks.map asWrite) fs :=
  (installAll_follows target hooks fs).files

end Hook

/-- Writing a text of a renderer is one write. -/
lemma Renderer.writeText_follows (target path : Path) (text : String) (fs : FileSystem) :
    TargetWrite.Follows target [⟨path, text.toUTF8, configMode⟩] (writeText target path text) fs :=
  .of_run rfl ⟨fun ⟨_, h⟩ => h, fun h => ⟨(), h⟩⟩

/-- Rendering writes its files in order. -/
lemma Renderer.standard_follows (target : Path) (state : Network.State) (postupAlias : Bool)
    (fs : FileSystem) :
    TargetWrite.Follows target (Renderer.writes state postupAlias)
      (Renderer.standard ⟨target, state, postupAlias⟩) fs := by
  have others (files : FileSystem) :
      TargetWrite.Follows target (Renderer.writes state postupAlias).tail
        (writeText target rulesPath (UdevRules.render state) >>= fun _ =>
          writeText target switchPath switchText) files :=
    .cons (writeText_follows _ _ _ _) fun _ _ => writeText_follows _ _ _ _
  cases h : targetPathIn fs target interfacesPath with
  | error reason =>
    have refused := targetPath_of_error Remark h
    have run := TargetWrite.run_of_refused
      ⟨interfacesPath, (Interfaces.render postupAlias state).toUTF8, configMode⟩ h
    have ends : Renderer.standard ⟨target, state, postupAlias⟩ fs =
        ⟨.error (.path reason), fs, []⟩ := by
      rw [standard, Job.bind_of_error (congrArg Done.result refused), refused]
    refine ⟨?_, ?_⟩
    · rw [ends, writes, TargetWrite.filesAfter, run]
    · rw [ends, writes, TargetWrite.AllSucceed, run]
      simp
  | ok path =>
    have accepted := targetPath_of_ok Remark h
    have run := TargetWrite.run_of_accepted
      ⟨interfacesPath, (Interfaces.render postupAlias state).toUTF8, configMode⟩ h
    have first : TargetWrite.Follows target
        [⟨interfacesPath, (Interfaces.render postupAlias state).toUTF8, configMode⟩]
        (writeFile path (Interfaces.render postupAlias state).toUTF8 configMode) fs :=
      .of_run (by rw [run]) (by rw [run]; exact ⟨fun ⟨_, h⟩ => h, fun h => ⟨(), h⟩⟩)
    obtain ⟨files, result⟩ := first.cons fun _ files => others files
    refine ⟨?_, ?_⟩ <;>
      rw [standard, Job.bind_of_ok (congrArg Done.result accepted), accepted]
    · exact files
    · exact result

/-- The files after rendering are those after its writes. -/
lemma Renderer.standard_files (target : Path) (state : Network.State) (postupAlias : Bool)
    (fs : FileSystem) :
    (Renderer.standard ⟨target, state, postupAlias⟩ fs).files =
      TargetWrite.filesAfter target (Renderer.writes state postupAlias) fs :=
  (Renderer.standard_follows target state postupAlias fs).files

end TargetNet
