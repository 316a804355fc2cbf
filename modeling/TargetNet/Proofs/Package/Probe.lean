import Mathlib.Data.List.Basic
import Mathlib.Tactic.Common
import TargetNet.Compatibility
import TargetNet.Proofs.Job

/-!
# Probes only look

A probe is meant to find out about a version and to leave the target alone. The probes of this library
do so, whatever the query program answers (`defaultProbe_onlyLooks`), and with such a probe deciding
on aliases leaves the target alone as well (`needsPostupAlias_onlyLooks`).
-/

namespace TargetNet

namespace Package

/-- A probe that changes no file. -/
def Probe.OnlyLooks (probe : Probe) : Prop :=
  ∀ target package, (probe target package).OnlyLooks

/-- Reading the status file changes no file. -/
lemma recordProbe_onlyLooks [Circumstances] (records : RecordReader) :
    (recordProbe records).OnlyLooks :=
  fun _ _ => .bind (.note _) fun _ => .look _

lemma statusProbe_onlyLooks [Circumstances] : statusProbe.OnlyLooks :=
  recordProbe_onlyLooks parseDatabase

/-- Asking the query program changes no file. -/
lemma queryProbe_onlyLooks (program : QueryProgram) (timeout : Nat) :
    (queryProbe program timeout).OnlyLooks := by
  intro target package
  refine .bind (.note _) fun _ => ?_
  cases program.start (queryArguments target package) with
  | notStarted fault => exact .fail _
  | unwaited fault => exact .fail _
  | timedOut => exact .fail _
  | unread fault => exact .fail _
  | finished exit output complaints =>
    refine .bind (.ofExcept _) fun output => .bind (.ofExcept _) fun complaints => ?_
    split
    · split
      · exact .bind (.note _) fun _ => .fail _
      · exact .fail _
    · split
      · exact .fail _
      · exact .ofExcept _

/-- Whether the host has the query program or not, the probe that is used only looks. -/
theorem defaultProbe_onlyLooks [Circumstances] (program : Option QueryProgram) :
    (defaultProbe program).OnlyLooks := by
  cases program with
  | some program => exact queryProbe_onlyLooks program defaultTimeout
  | none => exact statusProbe_onlyLooks

end Package

/-- With a probe that only looks, so does finding out about aliases. -/
lemma Compatibility.needsPostupAlias_onlyLooks {probe : Package.Probe} (h : probe.OnlyLooks)
    (target : Path) : (needsPostupAlias probe target).OnlyLooks := by
  refine .bind (.note _) fun _ => .bind (.attempt (.noting (h target packageName))) fun result => ?_
  cases result with
  | ok version => exact .bind (.note _) fun _ => .pure _
  | error error => exact .bind (.note _) fun _ => .pure _

end TargetNet
