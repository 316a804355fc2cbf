import TargetNet.Proofs.AllOrNothing
import TargetNet.Proofs.Job
import TargetNet.Proofs.Path.Relative
import TargetNet.Proofs.TargetWrite

/-!
# Installing hooks

Hooks are installed by one write after another. `InTurn` describes a run of such writes, all of them
successful, with the place that each one puts its file in. Installing hooks is the longest such run over
the list (`InTurn.isPrefix`), and one more write that fails if the run does not come to the end
(`installAll_outcome`). What one write has put in place is kept by all others that go elsewhere
(`InTurn.file`) and by one that fails (`Outcome.keeps`), so in the end every place has the file of the
last hook that was written there.
-/

namespace TargetNet

/-! ## Single writes -/

/-- A mode that says nothing but permissions is kept. -/
lemma keptMode_of_lt {mode : Nat} (small : mode < 0o10000) : keptMode mode = mode :=
  Nat.mod_eq_of_lt small

section

variable [Circumstances]

namespace TargetWrite

variable {target : Path} {write : TargetWrite} {fs : FileSystem}

/-- The file to write once its path is known. -/
def fileWrite (write : TargetWrite) (path parent : Path) : FileWrite :=
  ⟨path, parent, write.content, write.mode⟩

/-- A write that succeeds has an accepted path and puts its file in the place that the path names. -/
lemma written_of_run (succeeds : (write.run target fs).result = .ok ()) :
    ∃ path parent directory name, targetPathIn fs target write.path = .ok path ∧
      path.parent? = some parent ∧
      FileSystem.Written (fs.withParents (write.fileWrite path parent)) (write.run target fs).files
        (write.fileWrite path parent) directory name := by
  obtain ⟨path, accepted⟩ := accepted_of_run succeeds
  rw [run_of_accepted write accepted] at succeeds ⊢
  cases hp : path.parent? with
  | none =>
    rw [writeFile, hp] at succeeds
    cases succeeds
  | some parent =>
    cases hw : fs.write (write.fileWrite path parent) with
    | mk after result =>
      obtain ⟨ends, left⟩ := writeFile_of_write hp hw
      obtain rfl : result = .ok () := mapError_eq_ok_iff.1 (ends.symm.trans succeeds)
      obtain ⟨directory, name, written⟩ := FileSystem.written_of_write hw
      rw [← left] at written
      exact ⟨path, parent, directory, name, accepted, hp, written⟩

/-- A write that fails leaves everything that was there. -/
lemma intact_of_run {error : Error} (fails : (write.run target fs).result = .error error) :
    fs.Intact (write.run target fs).files := by
  cases accepted : targetPathIn fs target write.path with
  | error reason =>
    rw [run_of_refused write accepted]
    exact .refl fs
  | ok path =>
    rw [run_of_accepted write accepted] at fails ⊢
    exact intact_of_writeFile fails

end TargetWrite

/-! ## Runs of writes -/

/-- A hook with the path that it is installed under, and the place of the directory entry that this path
names. -/
structure Installation where
  hook : Hook
  path : Path
  place : Location

namespace Installation

/-- The file that is put in place. -/
def file (i : Installation) : Entry :=
  .file i.hook.content.toUTF8 (keptMode i.hook.mode)

/-- A hook is written to its file with success. Its place is the one that its path names as soon as the
directories for it are made. -/
structure IsWritten (target : Path) (fs : FileSystem) (i : Installation) : Prop where
  succeeds : (i.hook.asWrite.run target fs).result = .ok ()
  accepted : targetPathIn fs target i.hook.path = .ok i.path
  place : ∃ parent, i.path.parent? = some parent ∧
    (fs.withParents (i.hook.asWrite.fileWrite i.path parent)).Names i.path i.place

/-- Hooks are written one after another, each with success. -/
inductive InTurn (target : Path) : FileSystem → List Installation → FileSystem → Prop where
  | nil {fs} :
    InTurn target fs [] fs
  | cons {fs after i rest} :
    IsWritten target fs i →
    InTurn target (i.hook.asWrite.run target fs).files rest after →
    InTurn target fs (i :: rest) after

variable {target : Path} {fs after : FileSystem} {i j : Installation}

/-- A hook that is installed has a path and a place. -/
lemma exists_isWritten {hook : Hook} (succeeds : (hook.asWrite.run target fs).result = .ok ()) :
    ∃ path place, IsWritten target fs ⟨hook, path, place⟩ := by
  obtain ⟨path, parent, directory, name, accepted, hp, written⟩ :=
    TargetWrite.written_of_run succeeds
  exact ⟨path, directory ++ [name], succeeds, accepted, parent, hp, _, _, _, written.locate, rfl⟩

namespace IsWritten

/-- A hook that is installed has only one path and one place. -/
lemma unique (w : IsWritten target fs i) (w' : IsWritten target fs j) (same : i.hook = j.hook) :
    i = j := by
  obtain ⟨hook, path, place⟩ := i
  obtain ⟨_, path', place'⟩ := j
  cases same
  cases w.accepted.symm.trans w'.accepted
  obtain ⟨parent, hp, names⟩ := w.place
  obtain ⟨parent', hp', names'⟩ := w'.place
  cases hp.symm.trans hp'
  cases names.unique names'
  rfl

/-- A hook that is written is in its place, and nothing that was elsewhere is lost. -/
lemma view (w : IsWritten target fs i) :
    (i.hook.asWrite.run target fs).files.get? i.place = some i.file ∧
      ∀ l entry, i.place ≠ l → fs.get? l = some entry →
        (i.hook.asWrite.run target fs).files.get? l = some entry := by
  obtain ⟨path, parent, directory, name, accepted, hp, written⟩ :=
    TargetWrite.written_of_run w.succeeds
  obtain ⟨parent', hp', names⟩ := w.place
  cases w.accepted.symm.trans accepted
  cases hp.symm.trans hp'
  have here : i.place = directory ++ [name] := names.unique ⟨_, _, _, written.locate, rfl⟩
  rw [here]
  refine ⟨written.file, fun l entry elsewhere there => ?_⟩
  rw [written.get?, if_neg fun e => elsewhere e.symm]
  exact (fs.madeFor_withParents _).keeps l entry there

end IsWritten

namespace InTurn

variable {installed others : List Installation}

/-- The path of each installed hook was accepted when its turn came. -/
lemma accepted (run : InTurn target fs installed after) :
    ∀ i ∈ installed, ∃ files, targetPathIn files target i.hook.path = .ok i.path := by
  induction run with
  | nil => nofun
  | cons w _ ih => exact List.forall_mem_cons.2 ⟨⟨_, w.accepted⟩, ih⟩

/-- What is at a place stays there while hooks are written elsewhere. -/
lemma keeps (run : InTurn target fs installed after) {l : Location} {entry : Entry}
    (elsewhere : ∀ j ∈ installed, j.place ≠ l) (there : fs.get? l = some entry) :
    after.get? l = some entry := by
  induction run with
  | nil => exact there
  | cons w _ ih =>
    obtain ⟨first, elsewhere⟩ := List.forall_mem_cons.1 elsewhere
    exact ih elsewhere (w.view.2 l entry first there)

/-- The file of a hook is in its place, if no later one is written there. -/
lemma file {before later : List Installation}
    (run : InTurn target fs (before ++ i :: later) after) (last : ∀ j ∈ later, j.place ≠ i.place) :
    after.get? i.place = some i.file := by
  induction before generalizing fs with
  | nil =>
    cases run with
    | cons w run => exact run.keeps last w.view.1
  | cons first before ih =>
    cases run with
    | cons _ run => exact ih run

/-- A run over some of the hooks is the beginning of one that stops only where a hook cannot be
written. -/
lemma isPrefix {after' : FileSystem} {rest : List Hook} (run : InTurn target fs installed after)
    (stops : ∀ hook ∈ rest.head?, (hook.asWrite.run target after).result ≠ .ok ())
    (other : InTurn target fs others after')
    (hooks : others.map hook <+: installed.map hook ++ rest) : others <+: installed := by
  induction run generalizing others with
  | nil =>
    cases other with
    | nil => exact List.prefix_rfl
    | cons w _ =>
      obtain ⟨more, split⟩ := hooks
      obtain rfl : _ = rest := split
      exact absurd w.succeeds (stops _ rfl)
  | cons w _ ih =>
    cases other with
    | nil => exact List.nil_prefix
    | cons w' other =>
      obtain ⟨same, later⟩ := List.cons_prefix_cons.1 hooks
      obtain rfl := w'.unique w same
      exact List.cons_prefix_cons.2 ⟨rfl, ih stops other later⟩

end InTurn

end Installation

/-! ## Installing -/

namespace Hook

variable {target : Path} {fs : FileSystem} {hook : Hook} {error : Error}

open Installation (IsWritten InTurn)

/-- What comes of installing hooks, told by the run of those that are written and by those that are
left. -/
inductive Outcome (target : Path) (installed : List Installation) (after : FileSystem) :
    List Hook → Done Note (List Path) → Prop where
  | all {done} :
    done.Shows (.ok (installed.map (·.path))) after (installed.map (.hookInstalled ·.path)) →
    Outcome target installed after [] done
  | stopped {hook later error done} :
    (hook.asWrite.run target after).result = .error error →
    done.Shows (.error error) (hook.asWrite.run target after).files
      (installed.map (.hookInstalled ·.path)) →
    Outcome target installed after (hook :: later) done

/-- Installing hooks is a run of successful writes, up to the first that fails. -/
lemma installAll_outcome (target : Path) (hooks : List Hook) (fs : FileSystem) :
    ∃ installed rest after, hooks = installed.map (·.hook) ++ rest ∧
      InTurn target fs installed after ∧
      Outcome target installed after rest (installAll target hooks fs) := by
  induction hooks generalizing fs with
  | nil => exact ⟨[], [], fs, rfl, .nil, .all ⟨rfl, rfl, rfl⟩⟩
  | cons hook hooks ih =>
    cases ends : (hook.asWrite.run target fs).result with
    | error error =>
      refine ⟨[], hook :: hooks, fs, rfl, .nil, .stopped ends ?_⟩
      exact Job.shows_bind_of_error (install_shows_error ends) _
    | ok =>
      obtain ⟨path, place, w⟩ := Installation.exists_isWritten ends
      obtain ⟨installed, rest, after, split, run, outcome⟩ :=
        ih (hook.asWrite.run target fs).files
      refine ⟨⟨hook, path, place⟩ :: installed, rest, after, congrArg (hook :: ·) split,
        .cons w run, ?_⟩
      cases outcome with
      | all shows =>
        exact .all (Job.shows_bind_of_ok (install_shows w.accepted w.succeeds) (Job.shows_map shows _))
      | stopped fails shows =>
        exact .stopped fails (Job.shows_bind_of_ok (install_shows w.accepted w.succeeds)
          (Job.shows_bind_of_error shows _))

/-- Of the hooks after one that cannot be written, nothing is to notice. -/
lemma installAll_append_of_error {installed : List Installation} {after : FileSystem}
    (run : InTurn target fs installed after)
    (fails : (hook.asWrite.run target after).result = .error error) (later : List Hook) :
    installAll target (installed.map (·.hook) ++ hook :: later) fs =
      installAll target (installed.map (·.hook) ++ [hook]) fs := by
  induction run with
  | nil =>
    have stops := (install_shows_error fails).result
    exact (Job.bind_of_error stops _).trans (Job.bind_of_error stops _).symm
  | cons w _ ih =>
    have goesOn := install_shows w.accepted w.succeeds
    rw [List.map_cons, List.cons_append, List.cons_append, installAll, installAll,
      Job.bind_of_ok goesOn.result, Job.bind_of_ok goesOn.result, goesOn.files, Job.bind_apply,
      Job.bind_apply, ih fails]

namespace Outcome

variable {installed : List Installation} {after : FileSystem} {rest : List Hook}
  {done : Done Note (List Path)}

/-- The paths of all hooks are returned if and only if no hook is left. -/
lemma result_eq_ok_iff (outcome : Outcome target installed after rest done) (paths : List Path) :
    done.result = .ok paths ↔ rest = [] ∧ paths = installed.map (·.path) := by
  cases outcome with
  | all shows => simp [shows.result, eq_comm]
  | stopped _ shows => simp [shows.result]

/-- There is one event for each hook that was installed, in order. -/
lemma events (outcome : Outcome target installed after rest done) :
    Note.events done.notes = installed.map (.hookInstalled ·.path) := by
  cases outcome with
  | all shows => exact shows.events
  | stopped _ shows => exact shows.events

/-- The run goes no further because the next hook cannot be written. -/
lemma stops (outcome : Outcome target installed after rest done) :
    ∀ hook ∈ rest.head?, (hook.asWrite.run target after).result ≠ .ok () := by
  cases outcome with
  | all => nofun
  | stopped fails =>
    rintro _ ⟨⟩ succeeds
    cases fails.symm.trans succeeds

/-- What the run has put in place is there in the end. -/
lemma keeps (outcome : Outcome target installed after rest done) {l : Location} {entry : Entry}
    (there : after.get? l = some entry) : done.files.get? l = some entry := by
  cases outcome with
  | all shows => rwa [shows.files]
  | stopped fails shows =>
    rw [shows.files]
    exact (TargetWrite.intact_of_run fails).entries l entry there

end Outcome

/-- In all circumstances, some hooks at the beginning of the list are written one after another, and no
longer beginning could be. If these are all of them, their paths are returned. Otherwise the error is
that of writing the next one, and those after it might as well not be in the list. The hooks of the
beginning are reported in order, and no others. The path of a hook is its canonical spelling in the
target. It is written there, and unless a later hook of the beginning is written to the same place, its
file is in place in the end. -/
theorem installAll_is_clean_beginning (target : Path) (hooks : List Hook) (fs : FileSystem) :
    ∃ installed rest after,
      (hooks = installed.map (·.hook) ++ rest ∧ InTurn target fs installed after ∧
        ∀ others after', InTurn target fs others after' → others.map (·.hook) <+: hooks →
          others <+: installed) ∧
      (∀ paths, (installAll target hooks fs).result = .ok paths ↔
        rest = [] ∧ paths = installed.map (·.path)) ∧
      (∀ hook later, rest = hook :: later → ∃ error,
        (hook.asWrite.run target after).result = .error error ∧
        (installAll target hooks fs).result = .error error ∧
        (installAll target hooks fs).files = (hook.asWrite.run target after).files ∧
        installAll target hooks fs = installAll target (installed.map (·.hook) ++ [hook]) fs) ∧
      Note.events (installAll target hooks fs).notes = installed.map (.hookInstalled ·.path) ∧
      (∀ i ∈ installed, ∃ below, i.hook.path.relative = .ok below ∧ i.path = target.join below ∧
        (target.bytes ≠ [] → i.path.same (target.join i.hook.path) = true)) ∧
      ∀ before i later, installed = before ++ i :: later → (∀ j ∈ later, j.place ≠ i.place) →
        (installAll target hooks fs).files.get? i.place =
            some (.file i.hook.content.toUTF8 (keptMode i.hook.mode)) ∧
          (i.hook.mode < 0o10000 → keptMode i.hook.mode = i.hook.mode) := by
  obtain ⟨installed, rest, after, split, run, outcome⟩ := installAll_outcome target hooks fs
  refine ⟨installed, rest, after, ⟨split, run, ?_⟩, outcome.result_eq_ok_iff, ?_, outcome.events,
    ?_, ?_⟩
  · intro others after' other hooks
    rw [split] at hooks
    exact run.isPrefix outcome.stops other hooks
  · rintro hook later rfl
    cases outcome with
    | stopped fails shows =>
      refine ⟨_, fails, shows.result, shows.files, ?_⟩
      rw [split]
      exact installAll_append_of_error run fails later
  · intro i mem
    obtain ⟨files, accepted⟩ := run.accepted i mem
    obtain ⟨below, e, h, -⟩ := targetPathIn_eq_ok_iff.1 accepted
    refine ⟨below, e, h, fun ne => ?_⟩
    rw [h]
    exact Path.same_join_relative e ne
  · rintro before i later rfl last
    exact ⟨outcome.keeps (run.file last), keptMode_of_lt⟩

end Hook

end

namespace Hook

/-- A mode of more than twelve bits is not the one of the file. And where the target is the empty path,
a dot at the beginning of a hook's path makes a difference that is not in the path returned. -/
theorem installAll_is_not_to_the_letter :
    ((installAll (.ofString "target") [⟨.ofString "f", "x\n", 0o10644⟩] bareGround).result =
        .ok [.ofString "target/f"] ∧
      (installAll (.ofString "target") [⟨.ofString "f", "x\n", 0o10644⟩] bareGround).files.get?
        (.ofStrings ["target", "f"]) = some (.file "x\n".toUTF8 0o644)) ∧
    (installAll (.ofString "") [⟨.ofString "./f", "x\n", scriptMode⟩] bareGround).result =
        .ok [.ofString "f"] ∧
      (Path.ofString "f").same ((Path.ofString "").join (.ofString "./f")) = false := by
  refine ⟨⟨by decide +kernel, by decide +kernel⟩, by decide +kernel, by decide +kernel⟩

end Hook

end TargetNet
