import TargetNet.FileSystem.AtomicWrite
import TargetNet.Proofs.FileSystem.Walk

/-!
# What a write does

`Staged` describes a write under way by its view: the file system it started from, with one more
file. `Reached` says how far a write has come. One stage leads from one such point to the next, or
leaves the write where it was (`Reached.step`), and so does a run of stages (`Reached.follow`). From
that follows the main statement (`write_spec`): a write that succeeds puts exactly the file at the
place that its path names, and one that fails leaves everything as it was but for the directories it
made.
-/

namespace TargetNet
namespace FileSystem

section

variable [Circumstances] {fs : FileSystem} {directory : Location} {path : Path}

lemma stagingPlace_ne_root : fs.stagingPlace directory path ≠ [] :=
  List.concat_ne_nil _ _

/-- A staging file comes where nothing is. -/
lemma get?_stagingPlace : fs.get? (fs.stagingPlace directory path) = none :=
  Circumstances.staging.free fs directory path

/-- No path names its own staging file. -/
lemma ne_stagingPlace {name : Name} (last : path.named.getLast? = some name)
    (directory' : Location) : directory' ++ [name] ≠ fs.stagingPlace directory path := by
  intro same
  obtain ⟨-, rfl⟩ := List.append_singleton_inj.1 same
  exact Circumstances.staging.apart fs directory path
    (List.mem_filter.1 (List.mem_of_getLast? last)).1

end

/-- What is there once a write has put its file in place: `made` is the file system with the
directories that were made for it. -/
structure Written (made after : FileSystem) (write : FileWrite) (directory : Location)
    (name : Name) : Prop where
  locate : made.locate write.path = .ok (directory, some name, false)
  short : name.length ≤ Path.maxName
  notDirectory : made.get? (directory ++ [name]) ≠ some .directory
  current : after.current = made.current
  get? : ∀ l, after.get? l =
    if l = directory ++ [name] then some (.file write.content (keptMode write.mode))
    else made.get? l

end FileSystem

namespace Draft

/-- A write under way over `made`: a file is staged at a place where nothing was. -/
structure Staged (made : FileSystem) (place : Location) (content : ByteArray) (mode : Nat)
    (draft : Draft) : Prop where
  ne_root : place ≠ []
  fresh : made.get? place = none
  staged : draft.staged = some place
  current : draft.files.current = made.current
  get?_self : draft.files.get? place = some (.file content mode)
  get?_of_ne : ∀ l ≠ place, draft.files.get? l = made.get? l

/-- After the second stage, there is an empty staging file. -/
lemma step_create [Circumstances] {write : FileWrite} {made : FileSystem} {draft : Draft}
    (h : step write ⟨made, none⟩ .create = (draft, .ok ())) :
    ∃ directory, Staged made (made.stagingPlace directory write.path) .empty privateMode draft := by
  simp only [step] at h
  split at h
  · cases h
  · rename_i directory _
    cases h
    exact ⟨directory, {
      ne_root := FileSystem.stagingPlace_ne_root
      fresh := FileSystem.get?_stagingPlace
      staged := rfl
      current := rfl
      get?_self := made.get?_set_self FileSystem.stagingPlace_ne_root _
      get?_of_ne := fun l hl => made.get?_set_of_ne hl _ }⟩

/-- If no staging file can be made, nothing changes. -/
lemma step_create_error [Circumstances] {write : FileWrite} {draft after : Draft} {fault : SystemError}
    (h : draft.step write .create = (after, .error fault)) : after = draft := by
  simp only [step] at h
  split at h
  · cases h; rfl
  · cases h

/-- Writing to the staging file always succeeds. -/
lemma Staged.put {made place content mode draft} (s : Staged made place content mode draft)
    (content' : ByteArray) (mode' : Nat) :
    ∃ draft', draft.put content' mode' = (draft', .ok ()) ∧
      Staged made place content' mode' draft' := by
  refine ⟨{ draft with files := draft.files.set place (.file content' mode') }, ?_, ?_⟩
  · simp [Draft.put, s.staged]
  · exact {
      ne_root := s.ne_root
      fresh := s.fresh
      staged := s.staged
      current := s.current
      get?_self := FileSystem.get?_set_self _ s.ne_root _
      get?_of_ne := fun l hl => (FileSystem.get?_set_of_ne _ hl _).trans (s.get?_of_ne l hl) }

lemma Staged.stagedFile {made place content mode draft} (s : Staged made place content mode draft) :
    draft.stagedFile = (content, mode) := by
  simp [Draft.stagedFile, s.staged, s.get?_self]

/-- The staging file is where nothing was, so all that was there is there. -/
lemma Staged.keeps {made place content mode draft} (s : Staged made place content mode draft)
    (l : Location) (entry : Entry) (h : made.get? l = some entry) :
    draft.files.get? l = some entry := by
  rw [s.get?_of_ne l, h]
  rintro rfl
  cases h.symm.trans s.fresh

/-- Taking the staging file away leaves nothing of the write. -/
lemma Staged.get?_discard {made place content mode draft}
    (s : Staged made place content mode draft) (l : Location) :
    draft.discard.get? l = made.get? l := by
  rw [discard, s.staged]
  by_cases hl : l = place
  · subst hl
    exact (FileSystem.get?_erase_self _ s.ne_root).trans s.fresh.symm
  · exact (FileSystem.get?_erase_of_ne _ hl).trans (s.get?_of_ne l hl)

end Draft

namespace FileSystem

/-- What is moved takes the place that a path names, which is no directory, and is gone from where
it was. -/
lemma replace_eq_ok {fs after : FileSystem} {source : Location} {path : Path}
    (h : fs.replace source path = .ok after) :
    ∃ directory name entry, fs.locate path = .ok (directory, some name, false) ∧
      name.length ≤ Path.maxName ∧ fs.get? (directory ++ [name]) ≠ some .directory ∧
      fs.get? source = some entry ∧ after = (fs.erase source).set (directory ++ [name]) entry := by
  rw [replace] at h
  split at h
  · cases h
  · cases h
  · cases h
  · rename_i directory name slash hl
    split at h
    · cases h
    · rename_i short
      split at h
      · cases h
      · rename_i noSlash
        split at h
        · cases h
        · rename_i hd
          split at h
          · cases h
          · rename_i entry he
            cases h
            rw [Bool.not_eq_true] at noSlash
            subst noSlash
            refine ⟨directory, name, entry, hl, Nat.not_lt.1 short, ?_, he, rfl⟩
            exact fun e => hd (isDirectoryAt_iff.2 e)

end FileSystem

namespace Draft

/-- The place that a path names is found past a staging file as it is found without one. -/
lemma Staged.locate {made place content mode draft} (s : Staged made place content mode draft)
    {path : Path} {directory : Location} {name : Name} {slash : Bool}
    (h : draft.files.locate path = .ok (directory, some name, slash)) :
    made.locate path = .ok (directory, some name, slash) := by
  -- there is only one entry more, and it is a file
  have keeps {l entry} (he : draft.files.get? l = some entry) (hf : ¬ entry.IsFile) :
      made.get? l = some entry := by
    by_cases hl : l = place
    · subst hl
      rw [s.get?_self] at he
      cases he
      exact absurd ⟨content, mode, rfl⟩ hf
    · exact (s.get?_of_ne l hl).symm.trans he
  obtain ⟨check, arrives, hd, rest⟩ := FileSystem.locate_eq_ok_iff.1 h
  obtain ⟨n, le, w⟩ := FileSystem.walk_eq_ok_iff.1 arrives
  refine FileSystem.locate_eq_ok_iff.2 ⟨check, ?_, keeps hd Entry.not_isFile_directory, rest⟩
  rw [s.current] at w
  refine FileSystem.walk_eq_ok_iff.2 ⟨n, le, w.transfer ?_⟩
  rintro l entry he (hf | rfl)
  · exact keeps he hf
  · rw [hd] at he
    cases he
    exact keeps hd Entry.not_isFile_directory

variable [Circumstances]

/-- Publishing a finished staging file puts it, and nothing else, where the path says. -/
lemma Staged.publish {made place draft} {write : FileWrite}
    (s : Staged made place write.content (keptMode write.mode) draft) {after : Draft}
    (h : draft.step write .publish = (after, .ok ())) :
    ∃ directory name, FileSystem.Written made after.files write directory name := by
  simp only [step, s.staged] at h
  split at h
  · rename_i files hr
    cases h
    obtain ⟨directory, name, entry, hl, short, hd, he, rfl⟩ := FileSystem.replace_eq_ok hr
    rw [s.get?_self] at he
    cases he
    have ne : directory ++ [name] ≠ [] := by simp
    refine ⟨directory, name, s.locate hl, short, ?_, s.current, ?_⟩
    · -- the path may name the staging file, where nothing was before
      by_cases hp : directory ++ [name] = place
      · rw [hp, s.fresh]; rintro ⟨⟩
      · rw [← s.get?_of_ne _ hp]; exact hd
    · intro l
      split
      · rename_i hl
        subst hl
        exact FileSystem.get?_set_self _ ne _
      · rename_i hl
        rw [FileSystem.get?_set_of_ne _ hl]
        by_cases hp : l = place
        · subst hp
          exact (FileSystem.get?_erase_self _ s.ne_root).trans s.fresh.symm
        · exact (FileSystem.get?_erase_of_ne _ hp).trans (s.get?_of_ne l hp)
  · cases h

/-- A finished staging file is published, unless a directory is in its place. -/
lemma Staged.publish_of_locate {made place content mode draft}
    (s : Staged made place content mode draft) {write : FileWrite} {directory : Location}
    {name : Name} (h : made.locate write.path = .ok (directory, some name, false))
    (short : name.length ≤ Path.maxName)
    (free : made.get? (directory ++ [name]) ≠ some .directory) :
    ∃ after, draft.step write .publish = (after, .ok ()) := by
  have located : draft.files.locate write.path = .ok (directory, some name, false) :=
    FileSystem.locate_of_keeps h s.current s.keeps
  have other : ¬ draft.files.isDirectoryAt (directory ++ [name]) = true := by
    rw [FileSystem.isDirectoryAt_iff]
    by_cases hp : directory ++ [name] = place
    · rw [hp, s.get?_self]
      rintro ⟨⟩
    · rwa [s.get?_of_ne _ hp]
  have replaced : draft.files.replace place write.path =
      .ok ((draft.files.erase place).set (directory ++ [name]) (.file content mode)) := by
    rw [FileSystem.replace, located]
    dsimp only
    rw [if_neg (Nat.not_lt.2 short), if_neg Bool.false_ne_true, if_neg other, s.get?_self]
  simp only [step, s.staged, replaced]
  exact ⟨_, rfl⟩

/-- If the staging file cannot be moved, nothing changes. -/
lemma step_publish_error {write : FileWrite} {draft after : Draft} {fault : SystemError}
    (h : draft.step write .publish = (after, .error fault)) : after = draft := by
  simp only [step] at h
  split at h
  · cases h; rfl
  · split at h
    · cases h
    · cases h; rfl

/-- A stage that goes well is followed by the next. -/
lemma follow_cons {write : FileWrite} {draft next : Draft} {stage : WriteStage}
    {rest : List WriteStage} (calm : Circumstances.writing write.path stage = none)
    (h : draft.step write stage = (next, .ok ())) :
    draft.follow write (stage :: rest) = next.follow write rest := by
  rw [follow, calm]
  simp only [h]

/-- A stage that fails by itself is the last one. -/
lemma follow_disturbed {write : FileWrite} {draft : Draft} {stage : WriteStage}
    {rest : List WriteStage} {fault : SystemError}
    (h : Circumstances.writing write.path stage = some fault) :
    draft.follow write (stage :: rest) = (draft, .error fault) := by
  rw [follow, h]

/-- Stages succeed exactly one after another, none of them disturbed. -/
lemma follow_cons_eq_ok {write : FileWrite} {draft after : Draft} {stage : WriteStage}
    {rest : List WriteStage} (h : draft.follow write (stage :: rest) = (after, .ok ())) :
    Circumstances.writing write.path stage = none ∧
      ∃ next, draft.step write stage = (next, .ok ()) ∧ next.follow write rest = (after, .ok ()) := by
  cases calm : Circumstances.writing write.path stage with
  | some fault =>
    rw [follow_disturbed calm] at h
    cases h
  | none =>
    cases taken : draft.step write stage with
    | mk next outcome =>
      cases outcome with
      | error fault =>
        rw [follow, calm] at h
        simp only [taken] at h
        cases h
      | ok =>
        rw [follow_cons calm taken] at h
        exact ⟨rfl, next, rfl, h⟩

/-- If all stages go well, none of them fails by itself. -/
lemma calm_of_follow {write : FileWrite} {draft after : Draft} {stages : List WriteStage}
    (h : draft.follow write stages = (after, .ok ())) :
    ∀ stage ∈ stages, Circumstances.writing write.path stage = none := by
  induction stages generalizing draft with
  | nil => simp
  | cons stage rest ih =>
    obtain ⟨calm, next, -, h⟩ := follow_cons_eq_ok h
    exact List.forall_mem_cons.2 ⟨calm, ih h⟩

end Draft

/-- The file system with the directories for a write, as far as they can be made. -/
def FileSystem.withParents (fs : FileSystem) (write : FileWrite) : FileSystem :=
  (fs.makeDirectories write.parent).1

namespace Draft

variable [Circumstances]

/-- How far a write has come: the stages that are left to do, and its draft. -/
inductive Reached (fs : FileSystem) (write : FileWrite) : List WriteStage → Draft → Prop where
  | started :
    Reached fs write [.parents, .create, .fill, .flush, .permit, .publish] ⟨fs, none⟩
  | made :
    Reached fs write [.create, .fill, .flush, .permit, .publish] ⟨fs.withParents write, none⟩
  | created {directory draft} :
    Staged (fs.withParents write) ((fs.withParents write).stagingPlace directory write.path)
      .empty privateMode draft →
    Reached fs write [.fill, .flush, .permit, .publish] draft
  | filled {directory draft} :
    Staged (fs.withParents write) ((fs.withParents write).stagingPlace directory write.path)
      write.content privateMode draft →
    Reached fs write [.flush, .permit, .publish] draft
  | flushed {directory draft} :
    Staged (fs.withParents write) ((fs.withParents write).stagingPlace directory write.path)
      write.content privateMode draft →
    Reached fs write [.permit, .publish] draft
  | permitted {directory draft} :
    Staged (fs.withParents write) ((fs.withParents write).stagingPlace directory write.path)
      write.content (keptMode write.mode) draft →
    Reached fs write [.publish] draft
  | published {directory name draft} :
    FileSystem.Written (fs.withParents write) draft.files write directory name →
    Reached fs write [] draft

/-- A stage leads on, or it fails and something is left to do. -/
lemma Reached.step {fs : FileSystem} {write : FileWrite} {stage : WriteStage}
    {rest : List WriteStage} {draft next : Draft} {result : Except SystemError Unit}
    (r : Reached fs write (stage :: rest) draft) (h : draft.step write stage = (next, result)) :
    result = .ok () ∧ Reached fs write rest next ∨
      (∃ fault, result = .error fault) ∧ ∃ todo ≠ [], Reached fs write todo next := by
  cases r with
  | started =>
    have made : next = ⟨fs.withParents write, none⟩ := (congrArg Prod.fst h).symm
    subst made
    cases result with
    | ok => exact .inl ⟨rfl, .made⟩
    | error fault => exact .inr ⟨⟨fault, rfl⟩, _, List.cons_ne_nil _ _, .made⟩
  | made =>
    cases result with
    | ok =>
      obtain ⟨directory, staged⟩ := step_create h
      exact .inl ⟨rfl, .created staged⟩
    | error fault =>
      rw [step_create_error h]
      exact .inr ⟨⟨fault, rfl⟩, _, List.cons_ne_nil _ _, .made⟩
  | created staged =>
    obtain ⟨filled, e, full⟩ := staged.put write.content draft.stagedFile.2
    rw [staged.stagedFile] at full
    cases h.symm.trans e
    exact .inl ⟨rfl, .filled full⟩
  | filled staged =>
    cases h
    exact .inl ⟨rfl, .flushed staged⟩
  | flushed staged =>
    obtain ⟨permitted, e, finished⟩ := staged.put draft.stagedFile.1 (keptMode write.mode)
    rw [staged.stagedFile] at finished
    cases h.symm.trans e
    exact .inl ⟨rfl, .permitted finished⟩
  | permitted staged =>
    cases result with
    | ok =>
      obtain ⟨directory, name, written⟩ := staged.publish h
      exact .inl ⟨rfl, .published written⟩
    | error fault =>
      rw [step_publish_error h]
      exact .inr ⟨⟨fault, rfl⟩, _, List.cons_ne_nil _ _, .permitted staged⟩

/-- Stages lead on until one fails, and then something is left to do. -/
lemma Reached.follow {fs : FileSystem} {write : FileWrite} {stages rest : List WriteStage}
    {draft after : Draft} {result : Except SystemError Unit}
    (r : Reached fs write (stages ++ rest) draft)
    (h : draft.follow write stages = (after, result)) :
    result = .ok () ∧ Reached fs write rest after ∨
      (∃ fault, result = .error fault) ∧ ∃ todo ≠ [], Reached fs write todo after := by
  induction stages generalizing draft with
  | nil =>
    cases h
    exact .inl ⟨rfl, r⟩
  | cons stage stages ih =>
    cases calm : Circumstances.writing write.path stage with
    | some fault =>
      rw [follow_disturbed calm] at h
      cases h
      exact .inr ⟨⟨fault, rfl⟩, _, List.cons_ne_nil _ _, r⟩
    | none =>
      cases taken : draft.step write stage with
      | mk next outcome =>
        rcases r.step taken with ⟨rfl, on⟩ | ⟨⟨fault, rfl⟩, stopped⟩
        · rw [follow_cons calm taken] at h
          exact ih on h
        · rw [Draft.follow, calm] at h
          simp only [taken] at h
          cases h
          exact .inr ⟨⟨fault, rfl⟩, stopped⟩

/-- Where something is left to do, nothing is left of the write but the directories for it. -/
lemma Reached.get?_discard {fs : FileSystem} {write : FileWrite} {todo : List WriteStage}
    {draft : Draft} (r : Reached fs write todo draft) (left : todo ≠ []) :
    (∀ l, draft.discard.get? l = fs.get? l) ∨
      ∀ l, draft.discard.get? l = (fs.withParents write).get? l := by
  cases r with
  | started => exact .inl fun _ => rfl
  | made => exact .inr fun _ => rfl
  | created staged => exact .inr staged.get?_discard
  | filled staged => exact .inr staged.get?_discard
  | flushed staged => exact .inr staged.get?_discard
  | permitted staged => exact .inr staged.get?_discard
  | published _ => exact absurd rfl left

end Draft

namespace FileSystem

/-- A write puts exactly its file in place, after the directories for it, or it leaves behind no
more than these directories. -/
theorem write_spec [Circumstances] {fs after : FileSystem} {write : FileWrite}
    {result : Except SystemError Unit} (h : fs.write write = (after, result)) :
    (result = .ok () ∧ ∃ made directory name,
      fs.makeDirectories write.parent = (made, .ok ()) ∧
        Written made after write directory name) ∨
    (∃ fault, result = .error fault) ∧
      ((∀ l, after.get? l = fs.get? l) ∨
        ∀ l, after.get? l = (fs.makeDirectories write.parent).1.get? l) := by
  rw [FileSystem.write] at h
  cases ran : Draft.follow write ⟨fs, none⟩ WriteStage.all with
  | mk draft outcome =>
    rw [ran] at h
    have start : Draft.Reached fs write (WriteStage.all ++ []) ⟨fs, none⟩ := .started
    rcases start.follow ran with ⟨rfl, reached⟩ | ⟨⟨fault, rfl⟩, todo, left, reached⟩
    · cases h
      cases reached with
      | published written =>
        obtain ⟨-, next, parents, -⟩ := Draft.follow_cons_eq_ok ran
        have made : (fs.makeDirectories write.parent).2 = .ok () := congrArg Prod.snd parents
        exact .inl ⟨rfl, _, _, _, Prod.ext rfl made, written⟩
    · cases h
      exact .inr ⟨⟨fault, rfl⟩, reached.get?_discard left⟩

/-- A write that succeeds was not disturbed at all. -/
lemma calm_of_write [Circumstances] {fs after : FileSystem} {write : FileWrite}
    (h : fs.write write = (after, .ok ())) : Circumstances.writing write.path = .none := by
  rw [FileSystem.write] at h
  cases ran : Draft.follow write ⟨fs, none⟩ WriteStage.all with
  | mk draft outcome =>
    rw [ran] at h
    cases outcome with
    | error fault => cases h
    | ok =>
      funext stage
      exact Draft.calm_of_follow ran stage (by cases stage <;> simp [WriteStage.all])

/-- Where a walk led to a directory, it still does so once a file has taken the place of something
that was none, or it comes to a stop at the file. -/
lemma Walks.replaced {fs after : FileSystem} {n here steps goal} (w : fs.Walks n here steps goal)
    (hd : fs.get? goal = some .directory) {place : Location} {content : ByteArray} {mode : Nat}
    (other : fs.get? place ≠ some .directory) (file : after.get? place = some (.file content mode))
    (keeps : ∀ l entry, l ≠ place → fs.get? l = some entry → after.get? l = some entry)
    {links : Nat} (le : n ≤ links) :
    after.walk links here steps = .ok goal ∨ after.walk links here steps = .error .notDirectory ∨
      after.walk links here steps = .ok place := by
  have directory {l} (h : fs.get? l = some .directory) : after.get? l = some .directory :=
    keeps l _ (fun e => other (e ▸ h)) h
  induction w generalizing links with
  | stay => exact .inl (walk_nil _ _ _)
  | dot hh _ ih =>
    rw [walk_dot (directory hh)]
    exact ih hd le
  | up hh _ ih =>
    rw [walk_up (directory hh)]
    exact ih hd le
  | @into n here step rest goal entry hh hn he hl w ih =>
    have kept : after.get? (here ++ [step]) = some entry := by
      refine keeps _ _ (fun e => ?_) he
      rw [e] at w
      cases rest with
      | nil =>
        cases w
        exact other hd
      | cons => exact other w.isDirectory_of_cons
    rw [walk_into (directory hh) hn kept hl]
    exact ih hd le
  | @link n here step rest goal held hh hn hl w ih =>
    obtain ⟨k, rfl⟩ := Nat.exists_eq_add_of_lt le
    -- the file may be in the place of this very link
    by_cases e : here ++ [step] = place
    · right
      have isFile : ¬ (Entry.file content mode).IsLink := by
        rintro ⟨held, ⟨⟩⟩
      have there : after.get? (here ++ [step]) = some (.file content mode) := e ▸ file
      rw [walk_into (directory hh) hn there isFile]
      cases rest with
      | nil => exact .inr (e ▸ walk_nil _ _ _)
      | cons next rest =>
        left
        refine walk_blocked ?_
        rw [there]
        nofun
    · rw [walk_link (directory hh) hn (keeps _ _ e hl)]
      exact ih hd (by omega)

/-! ## Reading back -/

/-- A path that leads through the very entry that it names: without this entry, a link, its
directory is not found. -/
def DoublesBack (fs : FileSystem) (path : Path) : Prop :=
  ∃ directory name slash, fs.locate path = .ok (directory, some name, slash) ∧
    (fs.erase (directory ++ [name])).locate path ≠ .ok (directory, some name, slash)

/-- A path whose entry is a file leads to that file, if its directory is found. -/
lemma resolve_of_file {fs : FileSystem} {path : Path} {directory : Location} {name : Name}
    {content : ByteArray} {mode : Nat} (h : fs.locate path = .ok (directory, some name, false))
    (short : name.length ≤ Path.maxName)
    (file : fs.get? (directory ++ [name]) = some (.file content mode)) :
    fs.resolve path = .ok (directory ++ [name]) := by
  obtain ⟨check, arrives, hd, last, h1, h2, slash⟩ := locate_eq_ok_iff.1 h
  obtain ⟨n, le, w⟩ := walk_eq_ok_iff.1 arrives
  refine resolve_eq_ok_iff.2 ⟨check, ?_⟩
  rw [Path.steps_of_getLast? slash last]
  exact (w.append (.into hd ⟨h1, h2, short⟩ file (by rintro ⟨held, ⟨⟩⟩) .stay)).walk le

/-- A path whose entry is missing leads nowhere. -/
lemma resolve_of_missing {fs : FileSystem} {path : Path} {directory : Location} {name : Name}
    (h : fs.locate path = .ok (directory, some name, false))
    (short : name.length ≤ Path.maxName) (free : fs.get? (directory ++ [name]) = none) :
    fs.resolve path = .error .noEntry := by
  obtain ⟨check, arrives, hd, last, h1, h2, slash⟩ := locate_eq_ok_iff.1 h
  obtain ⟨n, le, w⟩ := walk_eq_ok_iff.1 arrives
  rw [resolve, check, Path.steps_of_getLast? slash last]
  exact (w.walk_append le [name]).trans (walk_missing hd ⟨h1, h2, short⟩ free)

/-- The new file is at its place. -/
lemma Written.file {made after : FileSystem} {write : FileWrite} {directory : Location}
    {name : Name} (w : Written made after write directory name) :
    after.get? (directory ++ [name]) = some (.file write.content (keptMode write.mode)) := by
  rw [w.get?, if_pos rfl]

/-- What was written is found under the path it was written to, unless the path leads through its
own entry. -/
lemma Written.find {made after : FileSystem} {write : FileWrite} {directory : Location}
    {name : Name} (w : Written made after write directory name)
    (h : ¬ made.DoublesBack write.path) :
    after.find write.path = .ok (.file write.content (keptMode write.mode)) := by
  have alone : (made.erase (directory ++ [name])).locate write.path =
      .ok (directory, some name, false) := by
    by_contra ne
    exact h ⟨directory, name, false, w.locate, ne⟩
  have file := w.file
  -- the file comes to where nothing was, so every look-up goes on as before
  have found : after.locate write.path = .ok (directory, some name, false) := by
    refine locate_of_keeps alone w.current fun l entry he => ?_
    have ne : l ≠ directory ++ [name] := by
      rintro rfl
      rw [get?_erase_self _ (by simp)] at he
      cases he
    rw [w.get?, if_neg ne, ← get?_erase_of_ne _ ne]
    exact he
  exact find_eq_ok_iff.2 ⟨_, resolve_of_file found w.short file, file⟩

/-- The new content is read under the path, if it may be, unless the path doubles back. -/
lemma Written.read [Circumstances] {made after : FileSystem} {write : FileWrite}
    {directory : Location} {name : Name} (w : Written made after write directory name)
    (h : ¬ made.DoublesBack write.path)
    (readable : Circumstances.reading write.path (keptMode write.mode) = none) :
    after.read write.path = .ok write.content :=
  read_eq_ok_iff.2 ⟨_, w.find h, readable⟩

/-- What was written is not found under the path it was written to, if the path leads through its
own entry: it stops at the file that has taken the place of the link. -/
lemma Written.read_of_doublesBack [Circumstances] {made after : FileSystem} {write : FileWrite}
    {directory : Location} {name : Name} (w : Written made after write directory name)
    (h : made.DoublesBack write.path) : ∃ fault, after.read write.path = .error fault := by
  obtain ⟨directory', name', slash, found, gone⟩ := h
  cases w.locate.symm.trans found
  have file := w.file
  cases hr : after.resolve write.path with
  | error fault => exact ⟨fault, by simp [FileSystem.read, FileSystem.find, hr, bind, Except.bind]⟩
  | ok location =>
    exfalso
    apply gone
    obtain ⟨check, arrives, hd, last, rest⟩ := locate_eq_ok_iff.1 w.locate
    obtain ⟨n, le, walk⟩ := walk_eq_ok_iff.1 arrives
    obtain ⟨-, whole⟩ := resolve_eq_ok_iff.1 hr
    rw [Path.steps_of_getLast? rest.2.2 last, w.current] at whole
    obtain ⟨_, le', whole⟩ := walk_eq_ok_iff.1 whole
    obtain ⟨k, m, mid, rfl, first, final⟩ := whole.split
    have inside := final.isDirectory_of_cons
    have here := first.walk (by omega : k ≤ maxLinks)
    -- the walk still leads to the directory, since it cannot go on from the file
    obtain rfl : mid = directory := by
      have kept (l : Location) (entry : Entry) (ne : l ≠ directory ++ [name])
          (he : made.get? l = some entry) : after.get? l = some entry := by
        rw [w.get?, if_neg ne, he]
      rcases walk.replaced hd w.notDirectory file kept le with same | stop | stop
      · exact Except.ok.inj (here.symm.trans same)
      · cases here.symm.trans stop
      · cases here.symm.trans stop
        cases file.symm.trans inside
    -- so all that it meets is there without the link, which `gone` denies
    have keeps (l : Location) (entry : Entry) (he : after.get? l = some entry)
        (passes : ¬ entry.IsFile ∨ l = mid) : (made.erase (mid ++ [name])).get? l = some entry := by
      have ne : l ≠ mid ++ [name] := by
        rintro rfl
        cases file.symm.trans he
        rcases passes with other | same
        · exact other ⟨_, _, rfl⟩
        · cases file.symm.trans (same ▸ inside)
      rw [get?_erase_of_ne _ ne, ← he, w.get?, if_neg ne]
    exact locate_eq_ok_iff.2 ⟨check, (first.transfer keeps).walk (by omega),
      keeps _ _ inside (.inl Entry.not_isFile_directory), last, rest⟩

end FileSystem
end TargetNet
