import Mathlib.Data.List.Basic
import Mathlib.Tactic.Common
import TargetNet.Job

/-!
# What jobs leave behind

A sequence of jobs is opened by its first one: `bind_of_ok` and `bind_of_error` say what is left of
it once the first job is known to succeed or to fail. `OnlyLooks` singles out the jobs that change
no file, `FailsAs` those that fail in one way only, and `Done.Shows` is what the outside sees of a job:
its result, the files, and the events among its notes.
-/

namespace TargetNet

/-- Changing errors does not change what succeeds. -/
lemma mapError_eq_ok_iff {ε ε' α : Type} {result : Except ε α} {change : ε → ε'} {a : α} :
    result.mapError change = .ok a ↔ result = .ok a := by
  cases result <;> simp [Except.mapError]

/-- What the outside sees of a job that is done. -/
structure Done.Shows {α : Type} (done : Done Note α) (result : Except Error α) (files : FileSystem)
    (events : List Event) : Prop where
  result : done.result = result
  files : done.files = files
  events : Note.events done.notes = events

@[simp] lemma Note.events_append (notes notes' : List Note) :
    Note.events (notes ++ notes') = Note.events notes ++ Note.events notes' :=
  List.filterMap_append

@[simp] lemma Note.events_remark (remark : Remark) (notes : List Note) :
    Note.events (.remark remark :: notes) = Note.events notes := rfl

@[simp] lemma Note.events_nil : Note.events [] = [] := rfl

@[simp] lemma Note.events_remarks (remarks : List Remark) :
    Note.events (remarks.map .remark) = [] := by
  simp [Note.events, Note.event?]

@[simp] lemma Note.events_cons (event : Event) (notes : List Note) :
    Note.events (.event event :: notes) = event :: Note.events notes := rfl

namespace Job

variable {ν μ α β : Type}

/-- After a job that succeeds, the next one runs. -/
lemma bind_of_ok {job : Job ν α} {fs : FileSystem} {a : α} (h : (job fs).result = .ok a)
    (next : α → Job ν β) :
    (job >>= next) fs =
      ⟨(next a (job fs).files).result, (next a (job fs).files).files,
        (job fs).notes ++ (next a (job fs).files).notes⟩ := by
  rw [bind_apply]
  cases done : job fs with
  | mk result files notes =>
    rw [done] at h
    cases h
    rfl

/-- After a job that fails, nothing runs. -/
lemma bind_of_error {job : Job ν α} {fs : FileSystem} {error : Error}
    (h : (job fs).result = .error error) (next : α → Job ν β) :
    (job >>= next) fs = ⟨.error error, (job fs).files, (job fs).notes⟩ := by
  rw [bind_apply]
  cases done : job fs with
  | mk result files notes =>
    rw [done] at h
    cases h
    rfl

/-- After a job that succeeds, the outside sees what it sees of both jobs. -/
lemma shows_bind_of_ok {job : Job Note α} {next : α → Job Note β} {fs files after : FileSystem}
    {a : α} {result : Except Error β} {events events' : List Event}
    (first : (job fs).Shows (.ok a) files events)
    (second : (next a files).Shows result after events') :
    ((job >>= next) fs).Shows result after (events ++ events') := by
  rw [bind_of_ok first.result, first.files]
  refine ⟨second.result, second.files, ?_⟩
  rw [Note.events_append, first.events, second.events]

/-- After a job that fails, the outside sees no more of it than what it has seen. -/
lemma shows_bind_of_error {job : Job Note α} {fs files : FileSystem} {error : Error}
    {events : List Event} (first : (job fs).Shows (.error error) files events)
    (next : α → Job Note β) : ((job >>= next) fs).Shows (.error error) files events := by
  rw [bind_of_error first.result]
  exact ⟨rfl, first.files, first.events⟩

/-- A value made of the result in the end is no more to see. -/
lemma shows_map {job : Job Note α} {fs files : FileSystem} {a : α} {events : List Event}
    (shows : (job fs).Shows (.ok a) files events) (f : α → β) :
    ((job >>= fun a => pure (f a)) fs).Shows (.ok (f a)) files events := by
  rw [bind_of_ok shows.result, shows.files]
  refine ⟨rfl, rfl, ?_⟩
  rw [Note.events_append, shows.events]
  exact List.append_nil _

/-- A job that changes no file. -/
def OnlyLooks (job : Job ν α) : Prop :=
  ∀ fs, (job fs).files = fs

namespace OnlyLooks

lemma pure (a : α) : OnlyLooks (Pure.pure a : Job ν α) := fun _ => rfl

lemma fail (error : Error) : OnlyLooks (Job.fail error : Job ν α) := fun _ => rfl

lemma note (n : ν) : OnlyLooks (Job.note n) := fun _ => rfl

lemma ofExcept (result : Except Error α) : OnlyLooks (Job.ofExcept result : Job ν α) := fun _ => rfl

lemma look (view : FileSystem → Except Error α) : OnlyLooks (Job.look view : Job ν α) :=
  fun _ => rfl

/-- Two jobs that only look do so one after the other. -/
lemma bind {job : Job ν α} {next : α → Job ν β} (h : OnlyLooks job)
    (h' : ∀ a, OnlyLooks (next a)) : OnlyLooks (job >>= next) := by
  intro fs
  cases result : (job fs).result with
  | error error => rw [bind_of_error result]; exact h fs
  | ok a =>
    rw [bind_of_ok result]
    exact (h' a _).trans (h fs)

lemma noting {job : Job Remark α} (h : OnlyLooks job) : OnlyLooks job.noting := h

lemma attempt {job : Job ν α} (h : OnlyLooks job) : OnlyLooks job.attempt := h

end OnlyLooks

/-- Whenever a job fails, its error is one of these. -/
def FailsAs (expected : Error → Prop) (job : Job ν α) : Prop :=
  ∀ fs error, (job fs).result = .error error → expected error

namespace FailsAs

variable {expected : Error → Prop}

/-- A job that always succeeds fails in no way. -/
lemma of_ok {job : Job ν α} (h : ∀ fs, ∃ a, (job fs).result = .ok a) : FailsAs expected job := by
  intro fs error failed
  obtain ⟨a, done⟩ := h fs
  rw [done] at failed
  cases failed

lemma fail {error : Error} (h : expected error) : FailsAs expected (Job.fail error : Job ν α) := by
  rintro fs _ ⟨⟩
  exact h

lemma note (n : ν) : FailsAs expected (Job.note n) := by
  rintro fs _ ⟨⟩

lemma ofExcept {result : Except Error α} (h : ∀ error, result = .error error → expected error) :
    FailsAs expected (Job.ofExcept result : Job ν α) :=
  fun _ => h

lemma look {view : FileSystem → Except Error α}
    (h : ∀ fs error, view fs = .error error → expected error) :
    FailsAs expected (Job.look view : Job ν α) := h

lemma change {act : FileSystem → FileSystem × Except Error α}
    (h : ∀ fs error, (act fs).2 = .error error → expected error) :
    FailsAs expected (Job.change act : Job ν α) := h

lemma noting {job : Job Remark α} (h : FailsAs expected job) : FailsAs expected job.noting := h

/-- Of two jobs, one after the other, the errors are those of each. -/
lemma bind {job : Job ν α} {next : α → Job ν β} (h : FailsAs expected job)
    (h' : ∀ a, FailsAs expected (next a)) : FailsAs expected (job >>= next) := by
  intro fs error failed
  cases result : (job fs).result with
  | error error' =>
    rw [bind_of_error result] at failed
    cases failed
    exact h fs error result
  | ok a =>
    rw [bind_of_ok result] at failed
    exact h' a _ error failed

end FailsAs

@[simp] lemma events_noting (job : Job Remark α) (fs : FileSystem) :
    Note.events (job.noting fs).notes = [] :=
  Note.events_remarks _

@[simp] lemma result_noting (job : Job Remark α) (fs : FileSystem) :
    (job.noting fs).result = (job fs).result := rfl

@[simp] lemma files_noting (job : Job Remark α) (fs : FileSystem) :
    (job.noting fs).files = (job fs).files := rfl

/-- After a line for the log, the next job runs on the same files. -/
lemma say_bind (level : Level) (text : String) (next : Unit → Job Note β) (fs : FileSystem) :
    ((Job.say level text).noting >>= next) fs =
      ⟨(next () fs).result, (next () fs).files,
        .remark (.said level text) :: (next () fs).notes⟩ := rfl

/-- A line for the log makes no difference to the result. -/
lemma result_say_bind (level : Level) (text : String) (next : Unit → Job Remark β)
    (fs : FileSystem) : ((Job.say level text >>= next) fs).result = (next () fs).result := rfl

lemma result_ofExcept_bind (result : Except Error α) (next : α → Job ν β) (fs : FileSystem) :
    ((Job.ofExcept result >>= next) fs).result = result.bind fun a => (next a fs).result := by
  cases result <;> rfl

@[simp] lemma notes_attempt (job : Job ν α) (fs : FileSystem) :
    (job.attempt fs).notes = (job fs).notes := rfl

lemma report_apply (event : Event) (fs : FileSystem) :
    Job.report event fs = ⟨.ok (), fs, [.event event]⟩ := rfl

end Job

end TargetNet
