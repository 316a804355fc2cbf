import TargetNet.Compatibility
import TargetNet.Hook
import TargetNet.Legacy.Known
import TargetNet.Legacy.Reconcile
import TargetNet.Network.Source
import TargetNet.Renderer

/-!
# Applying a configuration

A run over a target, always in this order: the state is resolved, how aliases are brought up is decided,
the state is rendered, the known artifacts are reconciled, and the hooks are installed. What fails while
an artifact is reconciled is reported; every other failure ends the run.
-/

namespace TargetNet

/-- What a run is to do. -/
structure Request where
  target : Path
  stateFile : Option Path := none
  configFile : Option Path := none
  /-- The way to bring up aliases, if it is not to be found out. -/
  postupAlias : Option Bool := none
  deriving DecidableEq, Repr

/-- What a run did. -/
structure Applied where
  postupAlias : Bool
  /-- The artifacts with their outcomes; none where reconciling failed. -/
  legacy : List (Path × Option Legacy.Outcome)
  /-- The paths of the hooks. -/
  hooks : List Path
  deriving DecidableEq, Repr

namespace Request

/-- Checks that a request can be carried out. -/
def check (request : Request) (fs : FileSystem) : Except Error Unit :=
  if request.target.bytes = [] then .error (.missing .requestTarget)
  else if request.stateFile.isNone && request.configFile.isNone then .error (.missing .source)
  else if fs.isDirectory request.target then .ok ()
  else .error (.path (.targetNotDirectory request.target))

/-- Decides how aliases are brought up. -/
def decidePostupAlias (request : Request) (probe : Package.Probe) : Job Note Bool :=
  match request.postupAlias with
  | some value => pure value
  | none => Compatibility.needsPostupAlias probe request.target

/-- Reconciles an artifact. A failure is reported. -/
def reconcile [Circumstances] (request : Request) (artifact : Legacy.Artifact) :
    Job Note (Path × Option Legacy.Outcome) := do
  match ← (Legacy.reconcile request.target artifact).attempt with
  | .ok outcome => return (artifact.path, some outcome)
  | .error error =>
    Job.report (.failure (request.target.join artifact.path) error.message)
    return (artifact.path, none)

/-- Reconciles artifacts in order. -/
def reconcileAll [Circumstances] (request : Request) :
    List Legacy.Artifact → Job Note (List (Path × Option Legacy.Outcome))
  | [] => pure []
  | artifact :: rest => do
    let first ← request.reconcile artifact
    let others ← request.reconcileAll rest
    return first :: others

/-- Renders a state into the target, and cleans up there. -/
def carryOut [Circumstances] (request : Request) (renderer : Renderer) (state : Network.State)
    (postupAlias : Bool) : Job Note Applied := do
  (Job.say .info ("Applying network configuration to " ++ request.target.display)).noting
  (renderer { target := request.target, state, postupAlias }).noting
  let legacy ← request.reconcileAll Legacy.known
  let hooks ← Hook.installAll request.target Hook.all
  (Job.say .info "Applied network configuration successfully").noting
  return { postupAlias, legacy, hooks }

/-- Carries out a request. -/
def apply [Circumstances] (request : Request) (renderer : Renderer) (probe : Package.Probe) :
    Job Note Applied := do
  Job.look request.check
  let state ← (Network.resolve request.stateFile request.configFile).noting
  let postupAlias ← request.decidePostupAlias probe
  request.carryOut renderer state postupAlias

end Request

end TargetNet
