import TargetNet.Proofs.FileSystem.Changes
import TargetNet.Proofs.Network.StateFile

/-!
# A write is all or nothing

While a file is written, its place shows what was there or the whole new file, after every stage
(`Draft.Reached.shows`), unless nothing was there and the path leads through its own place: then a
directory is made there on the way. A write that succeeds leaves exactly its file, and one that fails
leaves no more than new directories (`FileSystem.madeFor_of_failed`), so whatever was there is found as
before (`FileSystem.Intact`).
-/

namespace TargetNet

/-- Whatever was there is there, and is found under the same paths. -/
structure FileSystem.Intact (fs after : FileSystem) : Prop where
  entries : ∀ l entry, fs.get? l = some entry → after.get? l = some entry
  found : ∀ path entry, fs.find path = .ok entry → after.find path = .ok entry

lemma FileSystem.Intact.refl (fs : FileSystem) : fs.Intact fs :=
  ⟨fun _ _ h => h, fun _ _ h => h⟩

/-- The file that a write puts in place. -/
def FileWrite.file (write : FileWrite) : Entry :=
  .file write.content (keptMode write.mode)

variable {fs after : FileSystem} {write : FileWrite}

lemma FileSystem.MadeFor.intact {paths : List Path} (m : fs.MadeFor after paths) :
    fs.Intact after :=
  ⟨m.keeps, fun _ _ h => m.find h⟩

/-- Nothing is made for a write but the directories above its place. -/
lemma FileSystem.madeFor_withParents (fs : FileSystem) (write : FileWrite) :
    fs.MadeFor (fs.withParents write) write.parent.upwards :=
  madeFor_makeAll fs _

/-! ## Under way -/

section

variable [Circumstances]

/-- The place that a path names is no place of a staging file for it. -/
lemma FileSystem.Names.ne_stagingPlace {path : Path} {l : Location} (names : fs.Names path l)
    (directory : Location) : l ≠ fs.stagingPlace directory path := by
  obtain ⟨directory', name, _, located, rfl⟩ := names
  obtain ⟨-, -, -, last, -⟩ := locate_eq_ok_iff.1 located
  exact FileSystem.ne_stagingPlace last directory'

/-- However far a write has come, its place shows what was there before it, or before its staging
file was made, or the whole new file. -/
lemma Draft.Reached.shows {todo : List WriteStage} {draft : Draft}
    (r : Reached fs write todo draft) {l : Location}
    (names : (fs.withParents write).Names write.path l) :
    draft.files.get? l = fs.get? l ∨ draft.files.get? l = (fs.withParents write).get? l ∨
      draft.files.get? l = some write.file := by
  cases r with
  | started => exact .inl rfl
  | made => exact .inr (.inl rfl)
  | created staged => exact .inr (.inl (staged.get?_of_ne l (names.ne_stagingPlace _)))
  | filled staged => exact .inr (.inl (staged.get?_of_ne l (names.ne_stagingPlace _)))
  | flushed staged => exact .inr (.inl (staged.get?_of_ne l (names.ne_stagingPlace _)))
  | permitted staged => exact .inr (.inl (staged.get?_of_ne l (names.ne_stagingPlace _)))
  | published written =>
    have here := names.unique ⟨_, _, _, written.locate, rfl⟩
    exact .inr (.inr (here ▸ written.file))

/-- However far a write has come, its path leads to what it led to before, or to the whole new file. -/
lemma Draft.Reached.find {todo : List WriteStage} {draft : Draft}
    (r : Reached fs write todo draft) (straight : ¬ (fs.withParents write).DoublesBack write.path)
    {entry : Entry} (h : fs.find write.path = .ok entry) :
    draft.files.find write.path = .ok entry ∨ draft.files.find write.path = .ok write.file := by
  have made := (fs.madeFor_withParents write).find h
  have under {place content mode draft}
      (staged : Staged (fs.withParents write) place content mode draft) :
      draft.files.find write.path = .ok entry :=
    FileSystem.find_of_keeps made staged.current staged.keeps
  cases r with
  | started => exact .inl h
  | made => exact .inl made
  | created staged => exact .inl (under staged)
  | filled staged => exact .inl (under staged)
  | flushed staged => exact .inl (under staged)
  | permitted staged => exact .inl (under staged)
  | published written => exact .inr (written.find straight)

/-- Whichever stages a write has been led through, it has come to one of the points on its way. -/
lemma Draft.reached_of_isPrefix (fs : FileSystem) (write : FileWrite)
    {stages : List WriteStage} (h : stages <+: WriteStage.all) :
    ∃ todo, Reached fs write todo (Draft.follow write ⟨fs, none⟩ stages).1 := by
  obtain ⟨rest, all⟩ := h
  have start : Reached fs write (stages ++ rest) ⟨fs, none⟩ := by
    rw [all]
    exact .started
  cases ran : Draft.follow write ⟨fs, none⟩ stages with
  | mk draft outcome =>
    rcases start.follow ran with ⟨-, reached⟩ | ⟨-, todo, -, reached⟩
    · exact ⟨rest, reached⟩
    · exact ⟨todo, reached⟩

namespace FileSystem

/-! ## When it is over -/

/-- Of a write that fails, at most new directories are left. -/
lemma madeFor_of_failed {fault : SystemError}
    (h : fs.write write = (after, .error fault)) :
    fs.MadeFor after write.parent.upwards := by
  have current : after.current = fs.current := by
    have stays := fs.write_current write
    rwa [h] at stays
  have parents := fs.madeFor_withParents write
  rcases write_spec h with ⟨⟨⟩, -⟩ | ⟨-, same | same⟩
  · exact ⟨current, fun l => .inl (same l)⟩
  · exact parents.trans ⟨current.trans parents.current.symm, fun l => .inl (same l)⟩

/-- A write that succeeds puts its file in the place that its path names, and changes nothing else
once its directories are made. -/
lemma written_of_write (h : fs.write write = (after, .ok ())) :
    ∃ directory name, Written (fs.withParents write) after write directory name := by
  rcases write_spec h with ⟨-, made, directory, name, parents, written⟩ | ⟨⟨_, ⟨⟩⟩, -⟩
  have same : fs.withParents write = made := congrArg Prod.fst parents
  exact ⟨directory, name, same ▸ written⟩

/-- No file comes to the place of a directory. -/
lemma exists_fault_of_directory {l : Location} (names : (fs.withParents write).Names write.path l)
    (directory : (fs.withParents write).get? l = some .directory) :
    ∃ fault, (fs.write write).2 = .error fault := by
  cases h : fs.write write with
  | mk after result =>
    cases result with
    | error fault => exact ⟨fault, rfl⟩
    | ok =>
      obtain ⟨_, _, written⟩ := written_of_write h
      rw [names.unique ⟨_, _, _, written.locate, rfl⟩] at directory
      exact absurd directory written.notDirectory

end FileSystem

/-- A file that cannot be written leaves intact what was there. -/
lemma intact_of_writeFile {path : Path} {content : ByteArray} {mode : Nat} {error : Error}
    (h : (writeFile path content mode fs).result = .error error) :
    fs.Intact (writeFile path content mode fs).files := by
  cases hp : path.parent? with
  | none =>
    rw [writeFile, hp]
    exact .refl fs
  | some parent =>
    cases hw : fs.write { path, parent, content, mode } with
    | mk after result =>
      obtain ⟨ends, left⟩ := writeFile_of_write hp hw
      rw [left]
      cases result with
      | ok =>
        rw [ends] at h
        cases h
      | error fault => exact (FileSystem.madeFor_of_failed hw).intact

/-- A state that cannot be saved leaves intact what was there. -/
lemma intact_of_saveState {state : Network.State} {path : Path} {error : Error}
    (h : (Network.saveState state path fs).result = .error error) :
    fs.Intact (Network.saveState state path fs).files := by
  cases written : state.text with
  | error reason =>
    have start : (Job.ofExcept state.text : Job Remark String) fs = ⟨.error reason, fs, []⟩ :=
      congrArg (Done.mk · fs []) written
    rw [Network.saveState, Job.bind_of_error (congrArg Done.result start), start]
    exact .refl fs
  | ok text =>
    rw [Network.saveState_of_text written] at h ⊢
    exact intact_of_writeFile h

/-- Translating a config without success leaves intact what was there. -/
lemma intact_of_netState {configFile output : Path}
    (h : ∀ text, (netState configFile output fs).result ≠ .ok (.success text)) :
    fs.Intact (netState configFile output fs).files := by
  cases loaded : (Network.loadConfig configFile fs).result with
  | error error =>
    rw [(netState_of_unloaded loaded).2]
    exact .refl fs
  | ok state =>
    obtain ⟨result, files⟩ := netState_of_loaded output loaded
    rw [files]
    cases saved : (Network.saveState state output fs).result with
    | error error => exact intact_of_saveState saved
    | ok =>
      rw [saved] at result
      exact absurd result (h _)

/-- After every prefix of the stages, the place of a write shows what was there or the whole new file;
or nothing was there, and a directory is made on the way to the very same place. -/
lemma shows_of_stages {stages : List WriteStage} (before : stages <+: WriteStage.all)
    {place : Location} (names : (fs.withParents write).Names write.path place) :
    let seen := (Draft.follow write ⟨fs, none⟩ stages).1.files.get? place
    seen = fs.get? place ∨ seen = some write.file ∨
      fs.get? place = none ∧ (fs.withParents write).get? place = some .directory ∧
        seen = some .directory := by
  intro seen
  obtain ⟨todo, reached⟩ := Draft.reached_of_isPrefix fs write before
  rcases reached.shows names with same | parents | written
  · exact .inl same
  · rcases (fs.madeFor_withParents write).each place with same | new
    · exact .inl (parents.trans same)
    · exact .inr (.inr ⟨new.free, new.directory, parents.trans new.directory⟩)
  · exact .inr (.inl written)

/-- A write is all or nothing, whichever of its stages fail and however its staging file is named. After
every prefix of the stages its place shows what was there or the whole new file; only where nothing was,
and a directory is made on the way to the very same place, that directory is seen, and the write fails.
On success, the file is in its place, and nothing else has changed but for the directories that were
made. On failure, the error names the destination, and no more is left than such directories. So neither
saving a state nor turning a config into a state file damages anything when it fails. -/
theorem write_is_all_or_nothing (fs : FileSystem) :
    (∀ write : FileWrite, write.path.parent? = some write.parent →
      let made := fs.withParents write
      let done := writeFile write.path write.content write.mode fs
      fs.MadeFor made write.parent.upwards ∧
      (∀ stages, stages <+: WriteStage.all →
        let seen := (Draft.follow write ⟨fs, none⟩ stages).1.files
        (∀ place, made.Names write.path place →
          seen.get? place = fs.get? place ∨ seen.get? place = some write.file ∨
            (fs.get? place = none ∧ made.get? place = some .directory ∧
              seen.get? place = some .directory) ∧ ∃ error, done.result = .error error) ∧
        (¬ made.DoublesBack write.path → ∀ entry, fs.find write.path = .ok entry →
          seen.find write.path = .ok entry ∨ seen.find write.path = .ok write.file)) ∧
      (done.result = .ok () →
        ∃ place, made.Names write.path place ∧
          (∀ l, done.files.get? l = if l = place then some write.file else made.get? l) ∧
          (¬ made.DoublesBack write.path → done.files.find write.path = .ok write.file)) ∧
      ∀ error, done.result = .error error →
        (∃ fault, error = .write write.path fault) ∧ error.kind = .writeError ∧
          fs.MadeFor done.files write.parent.upwards) ∧
    (∀ state path error,
      (Network.saveState state path fs).result = .error error →
        fs.Intact (Network.saveState state path fs).files) ∧
    ∀ configFile output,
      (∀ text, (netState configFile output fs).result ≠ .ok (.success text)) →
        fs.Intact (netState configFile output fs).files := by
  refine ⟨fun write parent => ?_, fun _ _ _ => intact_of_saveState,
    fun _ _ => intact_of_netState⟩
  intro made done
  cases hw : fs.write write with
  | mk after result =>
    obtain ⟨ends, left⟩ := writeFile_of_write parent hw
    refine ⟨fs.madeFor_withParents write, ?_, ?_, ?_⟩
    · intro stages before seen
      refine ⟨fun place names => ?_, fun straight entry h => ?_⟩
      · refine (shows_of_stages before names).imp_right (Or.imp_right fun detour => ⟨detour, ?_⟩)
        -- the place was made a directory, so no file can come there
        obtain ⟨-, directory, -⟩ := detour
        obtain ⟨fault, failed⟩ := FileSystem.exists_fault_of_directory names directory
        rw [hw] at failed
        obtain rfl : result = .error fault := failed
        exact ⟨_, ends⟩
      · obtain ⟨todo, reached⟩ := Draft.reached_of_isPrefix fs write before
        exact reached.find straight h
    · intro ok
      obtain rfl : result = .ok () := mapError_eq_ok_iff.1 (ends.symm.trans ok)
      obtain ⟨directory, name, written⟩ := FileSystem.written_of_write hw
      rw [left]
      exact ⟨directory ++ [name], ⟨_, _, _, written.locate, rfl⟩, written.get?, written.find⟩
    · intro error failed
      cases result with
      | ok => cases ends.symm.trans failed
      | error fault =>
        cases ends.symm.trans failed
        rw [left]
        exact ⟨⟨fault, rfl⟩, rfl, FileSystem.madeFor_of_failed hw⟩

end

/-- A write to the place of a link. -/
def relink : FileWrite where
  path := .ofString "l"
  parent := .ofString ""
  content := "new\n".toUTF8
  mode := configMode

/-- Nothing but the last stage of a write fails. -/
abbrev interrupted : Circumstances :=
  { Circumstances.calm with
    writing := fun _ stage => if stage = .publish then some .noEntry else none }

/-- A link is replaced and not followed, and it stays when the last stage fails. -/
theorem write_is_all_or_nothing_relink :
    ((writeFile relink.path relink.content relink.mode linkedPlace).result = .ok () ∧
      (writeFile relink.path relink.content relink.mode linkedPlace).files.get?
        (.ofStrings ["l"]) = some relink.file) ∧
    (@writeFile interrupted relink.path relink.content relink.mode linkedPlace).result =
        .error (.write relink.path .noEntry) ∧
      (@writeFile interrupted relink.path relink.content relink.mode linkedPlace).files.get?
        (.ofStrings ["l"]) = some (.link (.ofString "d")) := by
  have parent : relink.path.parent? = some relink.parent := by decide +kernel
  have ok : (writeFile relink.path relink.content relink.mode linkedPlace).result = .ok () := by
    decide +kernel
  have failed : (@writeFile interrupted relink.path relink.content relink.mode
      linkedPlace).result = .error (.write relink.path .noEntry) := by decide +kernel
  have named : (linkedPlace.withParents relink).Names relink.path (.ofStrings ["l"]) :=
    ⟨[], Text.Utf8.encode "l", false, by decide +kernel, by decide +kernel⟩
  obtain ⟨-, -, success, -⟩ := (write_is_all_or_nothing linkedPlace).1 relink parent
  obtain ⟨-, -, -, failure⟩ :=
    (@write_is_all_or_nothing interrupted linkedPlace).1 relink parent
  obtain ⟨place, names, view, -⟩ := success ok
  obtain ⟨-, -, made⟩ := failure _ failed
  refine ⟨⟨ok, ?_⟩, failed, made.keeps _ _ (by decide +kernel)⟩
  rw [view, if_pos (named.unique names)]

/-- A place with nothing in it. -/
def bareGround : FileSystem where
  entries := []
  current := []

/-- A write under a path that leads through its own place. -/
def detour : FileWrite where
  path := .ofString "x/../x"
  parent := .ofString "x/.."
  content := "new\n".toUTF8
  mode := configMode

/-- On a detour, a directory comes to a place where nothing was, and the write fails. Of a mode with
more than twelve bits, the others are not kept. And a file is not found under a path that leads through
the link that it has replaced. -/
theorem write_is_not_all_or_nothing :
    (detour.path.parent? = some detour.parent ∧
      (bareGround.withParents detour).Names detour.path (.ofStrings ["x"]) ∧
      bareGround.get? (.ofStrings ["x"]) = none ∧
      (Draft.follow detour ⟨bareGround, none⟩ [.parents]).1.files.get? (.ofStrings ["x"]) =
        some .directory ∧
      (writeFile detour.path detour.content detour.mode bareGround).result =
        .error (.write detour.path .isDirectory) ∧
      (writeFile detour.path detour.content detour.mode bareGround).files.get? (.ofStrings ["x"]) =
        some .directory) ∧
    ((writeFile (.ofString "f") detour.content 0o10644 bareGround).result = .ok () ∧
      (writeFile (.ofString "f") detour.content 0o10644 bareGround).files.get? (.ofStrings ["f"]) =
        some (.file detour.content 0o644)) ∧
    (writeFile roundPath detour.content configMode linkedPlace).result = .ok () ∧
      (writeFile roundPath detour.content configMode linkedPlace).files.find roundPath =
        .error .notDirectory := by
  have named : (bareGround.withParents detour).Names detour.path (.ofStrings ["x"]) :=
    ⟨[], Text.Utf8.encode "x", false, by decide +kernel, by decide +kernel⟩
  refine ⟨⟨by decide +kernel, named, ?_⟩, ?_⟩ <;> decide +kernel

end TargetNet
