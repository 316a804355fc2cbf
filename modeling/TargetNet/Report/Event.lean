import TargetNet.Legacy.Artifact

/-!
# Reports

The decisions that are reported while a target is changed, and the form they take in a log: an absent
file is worth a warning, an unreadable one is an error, and other outcomes are for information.
-/

namespace TargetNet

/-- The levels of a log. -/
inductive Level where
  | debug
  | info
  | warn
  | error
  deriving DecidableEq, Repr

/-- A decision, or a problem that does not end the run. -/
inductive Event where
  /-- An artifact was dealt with. -/
  | reconciled (path : Path) (outcome : Legacy.Outcome) (detail : String)
  | failure (path : Path) (message : String)
  | hookInstalled (path : Path)
  | warning (message : String)
  deriving DecidableEq, Repr

namespace Event

/-- Whether two events say the same. Paths count by their components. -/
def same : Event → Event → Bool
  | .reconciled p o d, .reconciled p' o' d' => p.same p' && o == o' && d == d'
  | .failure p m, .failure p' m' => p.same p' && m == m'
  | .hookInstalled p, .hookInstalled p' => p.same p'
  | .warning m, .warning m' => m == m'
  | _, _ => false

/-- Whether two lists of events say the same. -/
def sameList : List Event → List Event → Bool
  | [], [] => true
  | a :: as, b :: bs => a.same b && sameList as bs
  | _, _ => false

/-- The level at which an outcome is logged. -/
def levelOf : Legacy.Outcome → Level
  | .absent => .warn
  | .unreadable => .error
  | _ => .info

/-- The level and the line of an event in a log. -/
def logged : Event → Level × String
  | .reconciled path outcome detail =>
    (levelOf outcome, path.display ++ ": " ++ detail ++ " (" ++ outcome.name ++ ")")
  | .failure path message => (.error, path.display ++ ": " ++ message)
  | .hookInstalled path => (.info, "Installed hook script: " ++ path.display)
  | .warning message => (.warn, message)

end Event

end TargetNet
