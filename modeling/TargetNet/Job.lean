import TargetNet.Error
import TargetNet.FileSystem.AtomicWrite
import TargetNet.Report.Note

/-!
# Jobs

A job works on a file system and leaves notes. It ends with a value or with an error, and what it did
until then stays. `ν` is the type of its notes: a job that leaves remarks only is a `Job Remark`, and
`Job.noting` makes it a `Job Note`.
-/

namespace TargetNet

/-- What became of a job. -/
structure Done (ν α : Type) where
  result : Except Error α
  files : FileSystem
  notes : List ν

/-- Something to do with files. -/
def Job (ν α : Type) := FileSystem → Done ν α

namespace Job

variable {ν μ α β : Type}

/-- Does nothing. -/
protected def pure (a : α) : Job ν α :=
  fun fs => ⟨.ok a, fs, []⟩

/-- Does one thing and, unless it fails, another. -/
protected def bind (job : Job ν α) (next : α → Job ν β) : Job ν β :=
  fun fs =>
    match job fs with
    | ⟨.error error, files, notes⟩ => ⟨.error error, files, notes⟩
    | ⟨.ok a, files, notes⟩ =>
      let rest := next a files
      ⟨rest.result, rest.files, notes ++ rest.notes⟩

instance : Monad (Job ν) where
  pure := Job.pure
  bind := Job.bind

/-- Fails. -/
def fail (error : Error) : Job ν α :=
  fun fs => ⟨.error error, fs, []⟩

/-- Takes over a result that needs no files. -/
def ofExcept (result : Except Error α) : Job ν α :=
  fun fs => ⟨result, fs, []⟩

/-- Leaves a note. -/
def note (n : ν) : Job ν Unit :=
  fun fs => ⟨.ok (), fs, [n]⟩

/-- Looks at the files. -/
def look (view : FileSystem → Except Error α) : Job ν α :=
  fun fs => ⟨view fs, fs, []⟩

/-- Changes the files. -/
def change (act : FileSystem → FileSystem × Except Error α) : Job ν α :=
  fun fs => let (files, result) := act fs; ⟨result, files, []⟩

/-- Takes an error as a result. -/
def attempt (job : Job ν α) : Job ν (Except Error α) :=
  fun fs => let done := job fs; ⟨.ok done.result, done.files, done.notes⟩

/-- Leaves other notes. -/
def mapNotes (f : ν → μ) (job : Job ν α) : Job μ α :=
  fun fs => let done := job fs; ⟨done.result, done.files, done.notes.map f⟩

/-- Leaves remarks as notes. -/
def noting (job : Job Remark α) : Job Note α :=
  job.mapNotes .remark

/-- Leaves a line for the log. -/
def say (level : Level) (text : String) : Job Remark Unit :=
  note (.said level text)

/-- Reports an event. -/
def report (event : Event) : Job Note Unit :=
  note (.event event)

theorem pure_apply (a : α) (fs : FileSystem) : (pure a : Job ν α) fs = ⟨.ok a, fs, []⟩ := rfl

/-- A job goes on with the next one in the files that it leaves, unless it fails. -/
theorem bind_apply (job : Job ν α) (next : α → Job ν β) (fs : FileSystem) :
    (job >>= next) fs =
      match job fs with
      | ⟨.error error, files, notes⟩ => ⟨.error error, files, notes⟩
      | ⟨.ok a, files, notes⟩ =>
        ⟨(next a files).result, (next a files).files, notes ++ (next a files).notes⟩ := rfl

/-- Two jobs one after another end well exactly when both do. -/
theorem bind_ok_iff (job : Job ν α) (next : α → Job ν β) (fs : FileSystem) (b : β) :
    ((job >>= next) fs).result = .ok b ↔
      ∃ a, (job fs).result = .ok a ∧ (next a (job fs).files).result = .ok b := by
  rw [bind_apply]
  cases h : job fs with
  | mk result files notes =>
    cases result with
    | error error => simp
    | ok a => simp

end Job

end TargetNet
