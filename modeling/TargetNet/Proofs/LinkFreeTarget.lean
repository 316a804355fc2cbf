import Mathlib.Data.List.Basic
import Mathlib.Tactic.Common
import TargetNet.Proofs.FileSystem.Changes
import TargetNet.Proofs.TargetWrite

/-!
# Writes below a target without links

Without links, a write puts its file at the place that its path spells, in directories that are made
on the way where they are missing, and all else stays (`run_of_grounded`, `filesAfter_of_grounded`).
Writes whose files are in place already succeed, where the system allows them, and change nothing
(`allSucceed_of_isInPlace`).
-/

namespace TargetNet

/-- No path of a target without links is refused. -/
lemma FileSystem.Grounded.targetPathIn_eq {fs : FileSystem} {target path : Path} {base : Location}
    (g : fs.Grounded target base) (plain : path.IsPlain) :
    targetPathIn fs target path = .ok (target.join path) := by
  have stays : fs.escapes target (target.join path) = false := by
    rw [escapes]
    cases root : fs.canonical target with
    | error fault => rfl
    | ok base' =>
      cases found : fs.canonical (target.join path) with
      | error fault => rfl
      | ok location =>
        obtain ⟨-, n, -, w⟩ := walks_of_canonical root
        obtain ⟨m, -, reached⟩ := g.leads.walks
        obtain rfl := w.end_unique reached
        obtain ⟨-, k, -, w'⟩ := walks_of_canonical found
        obtain ⟨rfl, -⟩ := g.walks_end plain w'
        simp
  rw [targetPathIn, plain.relative]
  simp [bind, Except.bind, stays]

/-- Neither of two paths is on the way to the other. -/
def Path.Apart (p q : Path) : Prop :=
  ¬ p.named <+: q.named ∧ ¬ q.named <+: p.named

instance (p q : Path) : Decidable (p.Apart q) :=
  inferInstanceAs (Decidable (_ ∧ _))

lemma Path.Apart.symm {p q : Path} (h : p.Apart q) : q.Apart p :=
  ⟨h.2, h.1⟩

lemma Path.Apart.place_ne {p q : Path} {base : Location} (h : p.Apart q) :
    base ++ p.named ≠ base ++ q.named :=
  fun e => h.1 (List.append_cancel_left e ▸ List.prefix_rfl)

/-- A file can be put under a path of a target: its directory is there, and no directory is in its
place. -/
structure FileSystem.IsReady (fs : FileSystem) (target : Path) (base : Location) (path : Path) :
    Prop where
  check : (target.join path).check = .ok ()
  directory : fs.get? (base ++ path.named).dropLast = some .directory
  free : fs.get? (base ++ path.named) ≠ some .directory

/-- A path stays ready when nothing changes at its place. -/
lemma FileSystem.IsReady.keeps {fs after : FileSystem} {target path : Path} {base : Location}
    {places made : List Location} (ready : fs.IsReady target base path)
    (c : fs.ChangesOnly after places made)
    (same : after.get? (base ++ path.named) = fs.get? (base ++ path.named)) :
    after.IsReady target base path :=
  ⟨ready.check, c.keeps_other ready.directory Entry.not_isFile_directory, same ▸ ready.free⟩

namespace TargetWrite

/-- Where the file of a write goes. -/
def place (base : Location) (write : TargetWrite) : Location :=
  base ++ write.path.named

/-- The file of a write is where it goes, under a path that can be used. -/
structure IsInPlace (target : Path) (base : Location) (fs : FileSystem) (write : TargetWrite) :
    Prop where
  check : (target.join write.path).check = .ok ()
  file : fs.get? (write.place base) = some (.file write.content (keptMode write.mode))

variable {fs : FileSystem} {target : Path} {base : Location} {write : TargetWrite}
  {writes : List TargetWrite}

/-- A write that is in place is found under its path. -/
lemma IsInPlace.find (there : write.IsInPlace target base fs) (g : fs.Grounded target base)
    (plain : write.path.IsPlain) :
    fs.find (target.join write.path) = .ok (.file write.content (keptMode write.mode)) := by
  exact FileSystem.find_eq_ok_iff.2 ⟨_, g.resolve_of_some plain there.check there.file, there.file⟩

/-- A write that succeeds puts its file in place, and changes nothing but what is on the way. -/
lemma run_of_grounded [Circumstances] (g : fs.Grounded target base) (plain : write.path.IsPlain)
    (ok : (write.run target fs).result = .ok ()) :
    fs.ChangesOnly (write.run target fs).files [write.place base] [write.place base] ∧
      (write.run target fs).files.Grounded target base ∧
      write.IsInPlace target base (write.run target fs).files := by
  obtain ⟨init, last, split⟩ := plain.concat
  obtain ⟨-, proper, spelled⟩ := plain.spelled
  rw [split] at proper spelled
  have relative : write.path.relative = .ok (.ofNames (init ++ [last])) := by
    rw [spelled]
    exact plain.relative
  obtain ⟨new, made, -, grown, done⟩ := run_lands g.tree g.leads proper relative
  rcases done with ⟨-, rfl, parent, written⟩ | ⟨⟨error, failed⟩, -⟩
  swap
  · cases ok.symm.trans failed
  have above : (fs.foothold base init).1 ++ (fs.foothold base init).2 = base ++ init :=
    g.free.foothold List.prefix_rfl g.leads.directory
      fun name h => proper name (List.mem_append_left _ h)
  rw [above, spelled] at written
  have goal : base ++ init ++ [last] = write.place base := by
    rw [place, split, List.append_assoc]
  have file := written.file
  have view := written.get?
  rw [goal] at file view
  have changes : fs.ChangesOnly (write.run target fs).files [write.place base]
      [write.place base] := by
    refine ⟨written.current.trans grown.current, fun l => ?_⟩
    by_cases e : l = write.place base
    · refine .replaced (List.mem_singleton.2 e) ?_ ?_
      · intro entry h
        cases entry with
        | file content mode => exact ⟨content, mode, rfl⟩
        | directory => exact absurd (grown.keeps (e ▸ h)) (goal ▸ written.notDirectory)
        | link held =>
          refine absurd h (g.free l held ?_)
          rw [e]
          exact List.prefix_append _ _
      · intro held h
        rw [e, file] at h
        cases h
    · have same : (write.run target fs).files.get? l = made.get? l := by rw [view, if_neg e]
      rcases grown.get?_eq l with h | ⟨way, -, before, rfl, missing, directory⟩
      · exact .same (same.trans h)
      · refine .made (List.mem_singleton_self _) ?_ missing (same.trans directory)
        rw [← goal, ← above]
        exact ((List.prefix_append_right_inj _).2 before).trans (List.prefix_append _ _)
  obtain ⟨-, -, -, -, hd⟩ := FileSystem.exists_foothold g.leads.directory init
  exact ⟨changes, changes.grounded g (written.isTree (grown.isTree g.tree hd)),
    (FileSystem.locate_eq_ok_iff.1 written.locate).1, file⟩

/-- What lies apart from the files of some writes stays as it was. -/
lemma same_of_apart {after : FileSystem} {path : Path}
    (c : fs.ChangesOnly after (writes.map (place base))
      (writes.map (place base)))
    (apart : ∀ write ∈ writes, write.path.Apart path) :
    after.get? (base ++ path.named) = fs.get? (base ++ path.named) := by
  refine c.same ?_ ?_
  · intro mem
    obtain ⟨write, mem, e⟩ := List.mem_map.1 mem
    exact (apart write mem).place_ne e
  · intro place mem
    obtain ⟨write, hw, rfl⟩ := List.mem_map.1 mem
    rw [place, List.prefix_append_right_inj]
    exact (apart write hw).2

/-- A write that is in place stays so when others change. -/
lemma IsInPlace.keeps {after : FileSystem} {places made : List Location}
    (there : write.IsInPlace target base fs) (c : fs.ChangesOnly after places made)
    (other : write.place base ∉ places) : write.IsInPlace target base after :=
  ⟨there.check, c.keeps other there.file⟩

/-- Writes that succeed put their files in place, and change nothing but what is on the way. -/
theorem filesAfter_of_grounded [Circumstances] (g : fs.Grounded target base)
    (plain : ∀ write ∈ writes, write.path.IsPlain)
    (apart : (writes.map TargetWrite.path).Pairwise Path.Apart)
    (ok : AllSucceed target writes fs) :
    fs.ChangesOnly (filesAfter target writes fs) (writes.map (place base))
        (writes.map (place base)) ∧
      (filesAfter target writes fs).Grounded target base ∧
      ∀ write ∈ writes, write.IsInPlace target base (filesAfter target writes fs) := by
  induction writes generalizing fs with
  | nil => exact ⟨.refl _ _ _, g, by simp⟩
  | cons write rest ih =>
    obtain ⟨first, others⟩ := ok
    obtain ⟨plain, plain'⟩ := List.forall_mem_cons.1 plain
    obtain ⟨apart, apart'⟩ := List.pairwise_cons.1 apart
    obtain ⟨changes, g', there⟩ := run_of_grounded g plain first
    obtain ⟨changes', grounded, inPlace⟩ := ih g' plain' apart' others
    have stays : write.place base ∉ rest.map (place base) := by
      intro h
      obtain ⟨other, mem, e⟩ := List.mem_map.1 h
      exact (apart _ (List.mem_map_of_mem mem)).place_ne e.symm
    rw [filesAfter, first]
    exact ⟨changes.trans changes', grounded,
      List.forall_mem_cons.2 ⟨there.keeps changes' stays, inPlace⟩⟩

/-- The system allows a write that succeeds. -/
lemma allowed_of_run [Circumstances] (plain : write.path.IsPlain)
    (ok : (write.run target fs).result = .ok ()) :
    Circumstances.writing (target.join write.path) = .none := by
  obtain ⟨path, accepted⟩ := accepted_of_run ok
  rw [run_of_accepted write accepted] at ok
  obtain ⟨below, relative, rfl, -⟩ := targetPathIn_eq_ok_iff.1 accepted
  cases plain.relative.symm.trans relative
  exact calm_of_writeFile ok

/-- The system allows writes that all succeed. -/
lemma allowed_of_allSucceed [Circumstances] (plain : ∀ write ∈ writes, write.path.IsPlain)
    (ok : AllSucceed target writes fs) :
    ∀ write ∈ writes, Circumstances.writing (target.join write.path) = .none := by
  induction writes generalizing fs with
  | nil => simp
  | cons write rest ih =>
    obtain ⟨plain, plain'⟩ := List.forall_mem_cons.1 plain
    exact List.forall_mem_cons.2 ⟨allowed_of_run plain ok.1, ih plain' ok.2⟩

/-- Where its path is ready, a write that the system allows succeeds. -/
lemma run_of_isReady [Circumstances] (g : fs.Grounded target base) (plain : write.path.IsPlain)
    (allowed : Circumstances.writing (target.join write.path) = .none)
    (ready : fs.IsReady target base write.path) : (write.run target fs).result = .ok () := by
  obtain ⟨init, last, split⟩ := plain.concat
  obtain ⟨check, hd, free⟩ := ready
  rw [split, ← List.append_assoc] at hd free
  rw [List.dropLast_concat] at hd
  rw [run_of_accepted write (g.targetPathIn_eq plain)]
  exact writeFile_of_locate allowed (g.locate_join plain check split hd)
    (plain.short last (by simp [split])) free

/-- Writes that the system allows succeed if their directories are there and none is on the way to
another. -/
theorem allSucceed_of_isReady [Circumstances] (g : fs.Grounded target base)
    (plain : ∀ write ∈ writes, write.path.IsPlain)
    (allowed : ∀ write ∈ writes, Circumstances.writing (target.join write.path) = .none)
    (apart : (writes.map TargetWrite.path).Pairwise Path.Apart)
    (ready : ∀ write ∈ writes, fs.IsReady target base write.path) :
    AllSucceed target writes fs := by
  induction writes generalizing fs with
  | nil => trivial
  | cons write rest ih =>
    obtain ⟨plain, plain'⟩ := List.forall_mem_cons.1 plain
    obtain ⟨allowed, allowed'⟩ := List.forall_mem_cons.1 allowed
    obtain ⟨first, others⟩ := List.forall_mem_cons.1 ready
    obtain ⟨apart, apart'⟩ := List.pairwise_cons.1 apart
    have ok := run_of_isReady g plain allowed first
    obtain ⟨changes, g', -⟩ := run_of_grounded g plain ok
    refine ⟨ok, ih g' plain' allowed' apart' fun other mem => (others other mem).keeps changes ?_⟩
    exact same_of_apart (show fs.ChangesOnly _ ([write].map (place base)) _ from changes)
      (List.forall_mem_singleton.2 (apart _ (List.mem_map_of_mem mem)))

/-- Where a file is in place, another one can be put. -/
lemma IsInPlace.isReady (there : write.IsInPlace target base fs) (tree : fs.IsTree) :
    fs.IsReady target base write.path := by
  have file := there.file
  rw [place] at file
  refine ⟨there.check, tree _ _ file, ?_⟩
  rw [file]
  rintro ⟨⟩

/-- Where it is in place already, a write that the system allows succeeds and changes nothing. -/
lemma run_of_isInPlace [Circumstances] (g : fs.Grounded target base) (plain : write.path.IsPlain)
    (allowed : Circumstances.writing (target.join write.path) = .none)
    (there : write.IsInPlace target base fs) :
    (write.run target fs).result = .ok () ∧
      fs.ChangesOnly (write.run target fs).files [] [] ∧
      (write.run target fs).files.Grounded target base := by
  have ok := run_of_isReady g plain allowed (there.isReady g.tree)
  obtain ⟨changes, grounded, there'⟩ := run_of_grounded g plain ok
  exact ⟨ok, changes.of_same g.tree there.file there'.file, grounded⟩

/-- Writes that the system allows and whose files are in place succeed, and change nothing. -/
theorem allSucceed_of_isInPlace [Circumstances] (g : fs.Grounded target base)
    (plain : ∀ write ∈ writes, write.path.IsPlain)
    (allowed : ∀ write ∈ writes, Circumstances.writing (target.join write.path) = .none)
    (there : ∀ write ∈ writes, write.IsInPlace target base fs) :
    AllSucceed target writes fs ∧
      fs.ChangesOnly (filesAfter target writes fs) [] [] ∧
      (filesAfter target writes fs).Grounded target base := by
  induction writes generalizing fs with
  | nil => exact ⟨trivial, .refl _ _ _, g⟩
  | cons write rest ih =>
    obtain ⟨plain, plain'⟩ := List.forall_mem_cons.1 plain
    obtain ⟨allowed, allowed'⟩ := List.forall_mem_cons.1 allowed
    obtain ⟨first, others⟩ := List.forall_mem_cons.1 there
    obtain ⟨ok, changes, g'⟩ := run_of_isInPlace g plain allowed first
    obtain ⟨ok', changes', grounded⟩ := ih g' plain' allowed' fun other mem =>
      (others other mem).keeps changes (by simp)
    rw [filesAfter, ok]
    exact ⟨⟨ok, ok'⟩, changes.trans changes', grounded⟩

end TargetWrite
end TargetNet
