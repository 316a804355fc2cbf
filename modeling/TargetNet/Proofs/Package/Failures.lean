import Mathlib.Tactic.Common
import TargetNet.Proofs.Job
import TargetNet.Package.Probe

/-!
# How probes fail

A probe that does not find a version is meant to say that it is unavailable, and callers go on without
it. The probe that reads the status file always fails in this way. The one that asks the query program
does so whether the program can be started or not, runs too long, refuses or answers nonsense, but not
if waiting for it or reading its outputs fails, or what it wrote is no text: then the error of the
system comes through (`probe_failures_are_unavailable_iff`).
-/

namespace TargetNet.Package

/-- The failure that a probe may have. -/
def IsUnavailable (error : Error) : Prop :=
  error.kind = .probeUnavailable

/-- What a run wrote, if it ended, is read as text on both outputs, and it could be waited for. -/
def Run.IsText : Run → Prop
  | .finished _ output complaints =>
    (∃ text : String, output = text.toUTF8) ∧ ∃ text : String, complaints = text.toUTF8
  | .unwaited _ | .unread _ => False
  | .notStarted _ | .timedOut => True

/-- The fault of a run that is not read as text. -/
def Run.fault : Run → SystemError
  | .unwaited fault | .unread fault => fault
  | _ => .notText

/-- An error that is wrapped as one of a probe says that the version is unavailable. -/
lemma isUnavailable_of_mapError {α : Type} {result : Except ProbeError α} {error : Error}
    (failed : result.mapError .probe = .error error) : IsUnavailable error := by
  cases result with
  | error reason =>
    cases failed
    rfl
  | ok a => cases failed

lemma outputText_toUTF8 (text : String) : outputText text.toUTF8 = .ok text := by
  rw [outputText, Text.Utf8.decode_toUTF8]

/-- What is not in UTF-8 is an error of the system. -/
lemma outputText_eq_error {bytes : ByteArray} (other : ¬ ∃ text : String, bytes = text.toUTF8) :
    outputText bytes = .error (.system .notText) := by
  rw [outputText]
  cases decoded : Text.Utf8.decode bytes with
  | error fault => rfl
  | ok text => exact absurd ⟨text, Text.Utf8.decode_eq_ok_iff.1 decoded⟩ other

/-- Reading the status file fails as a probe may. -/
lemma recordProbe_failsAs [Circumstances] (records : RecordReader) (target : Path) (package : String) :
    (recordProbe records target package).FailsAs IsUnavailable :=
  .bind (.note _) fun _ => .look fun _ _ => isUnavailable_of_mapError

section

variable {program : QueryProgram} {target : Path} {package : String}

/-- Asking the query program fails as a probe may if its run is read as text. -/
lemma queryProbe_failsAs (timeout : Nat)
    (text : (program.start (queryArguments target package)).IsText) :
    (queryProbe program timeout target package).FailsAs IsUnavailable := by
  refine .bind (.note _) fun _ => ?_
  cases run : program.start (queryArguments target package) with
  | notStarted fault => exact .fail rfl
  | timedOut => exact .fail rfl
  | unwaited fault =>
    rw [run] at text
    cases text
  | unread fault =>
    rw [run] at text
    cases text
  | finished exit output complaints =>
    rw [run] at text
    obtain ⟨⟨output, rfl⟩, complaints, rfl⟩ := text
    dsimp only
    rw [outputText_toUTF8, outputText_toUTF8]
    refine .bind (.ofExcept nofun) fun output => .bind (.ofExcept nofun) fun complaints => ?_
    split
    · split
      · exact .bind (.note _) fun _ => .fail rfl
      · exact .fail rfl
    · split
      · exact .fail rfl
      · exact .ofExcept fun _ => isUnavailable_of_mapError

/-- What is not read as text is an error of the system. -/
lemma queryProbe_of_not_text (timeout : Nat)
    (other : ¬ (program.start (queryArguments target package)).IsText) (fs : FileSystem) :
    (queryProbe program timeout target package fs).result =
      .error (.system (program.start (queryArguments target package)).fault) := by
  cases run : program.start (queryArguments target package) with
  | notStarted fault =>
    rw [run] at other
    exact absurd trivial other
  | timedOut =>
    rw [run] at other
    exact absurd trivial other
  | unwaited fault =>
    rw [queryProbe, Job.result_say_bind, run]
    rfl
  | unread fault =>
    rw [queryProbe, Job.result_say_bind, run]
    rfl
  | finished exit output complaints =>
    rw [run] at other
    rw [queryProbe, Job.result_say_bind, run]
    dsimp only
    rw [Job.result_ofExcept_bind]
    by_cases text : ∃ text : String, output = text.toUTF8
    · have second := outputText_eq_error fun text' => other ⟨text, text'⟩
      obtain ⟨output, rfl⟩ := text
      rw [outputText_toUTF8, Except.bind, Job.result_ofExcept_bind, second]
      rfl
    · rw [outputText_eq_error text]
      rfl

end

/-- The probe that reads the status file fails in no other way than that the version is unavailable,
however records are read. The one that asks the query program does so exactly as long as the run that
it asks for can be waited for and, if it ends, writes text only and is read; if not, the probe fails
with the error of the system about that. -/
theorem probe_failures_are_unavailable_iff [Circumstances] (target : Path) (package : String) :
    (∀ records, (recordProbe records target package).FailsAs IsUnavailable) ∧
    ∀ program timeout,
      ((queryProbe program timeout target package).FailsAs IsUnavailable ↔
        (program.start (queryArguments target package)).IsText) ∧
      (¬ (program.start (queryArguments target package)).IsText → ∀ fs,
        (queryProbe program timeout target package fs).result =
          .error (.system (program.start (queryArguments target package)).fault)) := by
  refine ⟨fun records => recordProbe_failsAs records target package, fun program timeout => ?_⟩
  refine ⟨⟨fun unavailable => ?_, queryProbe_failsAs timeout⟩, queryProbe_of_not_text timeout⟩
  by_contra other
  cases unavailable ⟨[], []⟩ _ (queryProbe_of_not_text timeout other _)

/-- A query program that answers with a byte that is no text. -/
def binaryAnswer : QueryProgram :=
  fun _ => .finished 0 ⟨#[0xFF]⟩ ⟨#[]⟩

/-- The answer is given, and the probe fails in another way than it may. -/
theorem probe_failures_are_unavailable_iff_binaryAnswer :
    binaryAnswer.start (queryArguments (.ofString "target") "ifupdown") =
      .finished 0 ⟨#[0xFF]⟩ ⟨#[]⟩ ∧
    ∀ fs, ∃ error, (queryProbe binaryAnswer defaultTimeout (.ofString "target") "ifupdown" fs).result =
      .error error ∧ ¬ IsUnavailable error := by
  have start : binaryAnswer.start (queryArguments (.ofString "target") "ifupdown") =
      .finished 0 ⟨#[0xFF]⟩ ⟨#[]⟩ := if_pos (by decide +kernel)
  refine ⟨start, fun fs => ⟨.system .notText, ?_, nofun⟩⟩
  obtain ⟨-, queries⟩ := probe_failures_are_unavailable_iff (.ofString "target") "ifupdown"
  obtain ⟨-, fails⟩ := queries binaryAnswer defaultTimeout
  rw [start] at fails
  apply fails
  rintro ⟨⟨text, written⟩, -⟩
  have decoded := Text.Utf8.decode_eq_ok_iff.2 written
  have refused : Text.Utf8.decode ⟨#[0xFF]⟩ = .error (.invalid 0 1) := by
    decide +kernel
  rw [refused] at decoded
  cases decoded

end TargetNet.Package
