import Mathlib.Data.List.Basic
import Mathlib.Tactic.Common
import TargetNet.Apply
import TargetNet.Proofs.Legacy.Reconcile

/-!
# How a run goes

The phases of a run, each with what it leaves behind and how it ends: looking for the state changes
nothing, deciding on aliases never fails, reconciling goes through all artifacts whatever happens to
each (`Reconciles`), and only the renderer and the hooks can end a run that has begun.
-/

namespace TargetNet

/-! ## Looking for the state -/

/-- Looking for the state changes no file. -/
lemma Network.resolve_onlyLooks [Circumstances] (stateFile configFile : Option Path) :
    (Network.resolve stateFile configFile).OnlyLooks := by
  have load (path : Path) : (Network.loadState path).OnlyLooks :=
    .bind (.note _) fun _ => .bind (.look _) fun _ => .ofExcept _
  have parse (text : String) : (Network.parseConfigText text).OnlyLooks :=
    .bind (.ofExcept _) fun _ => .bind (.note _) fun _ => .ofExcept _
  have loadConfig (path : Path) : (Network.loadConfig path).OnlyLooks :=
    .bind (.note _) fun _ => .bind (.look _) fun text => parse text
  cases stateFile with
  | some stateFile =>
    cases configFile with
    | some configFile => exact .bind (.note _) fun _ => load stateFile
    | none => exact load stateFile
  | none =>
    cases configFile with
    | some configFile => exact loadConfig configFile
    | none => exact .fail _

/-! ## Deciding on aliases -/

/-- Finding out about aliases always comes to a decision, and gives warnings at most. -/
lemma Compatibility.needsPostupAlias_eq_ok (probe : Package.Probe) (target : Path)
    (fs : FileSystem) :
    ∃ value, (needsPostupAlias probe target fs).result = .ok value ∧
      ∀ event ∈ Note.events (needsPostupAlias probe target fs).notes,
        ∃ message, event = .warning message := by
  rw [needsPostupAlias, Job.bind_of_ok rfl]
  dsimp only
  rw [Job.files_noting, Job.bind_of_ok rfl]
  simp only [Job.notes_attempt, Note.events_append, Job.events_noting, Job.result_noting]
  cases (probe target packageName (Job.say _ _ fs).files).result with
  | ok version => exact ⟨_, rfl, fun _ mem => by cases mem⟩
  | error error =>
    refine ⟨false, rfl, ?_⟩
    intro event h
    exact ⟨_, List.mem_singleton.1 h⟩

namespace Request

/-- How aliases are brought up, and what deciding on it leaves behind: nothing if the request says
it, else whatever finding out does. -/
inductive Decides (request : Request) (probe : Package.Probe) (fs : FileSystem) :
    Bool → FileSystem → List Event → Prop where
  | given {value} :
    request.postupAlias = some value →
    Decides request probe fs value fs []
  | detected {value} :
    request.postupAlias = none →
    (Compatibility.needsPostupAlias probe request.target fs).result = .ok value →
    Decides request probe fs value
      (Compatibility.needsPostupAlias probe request.target fs).files
      (Note.events (Compatibility.needsPostupAlias probe request.target fs).notes)

/-- Deciding on aliases never fails, and gives warnings at most. -/
lemma decidePostupAlias_spec (request : Request) (probe : Package.Probe) (fs : FileSystem) :
    ∃ value events, (request.decidePostupAlias probe fs).result = .ok value ∧
      Note.events (request.decidePostupAlias probe fs).notes = events ∧
      Decides request probe fs value (request.decidePostupAlias probe fs).files events ∧
      ∀ event ∈ events, ∃ message, event = .warning message := by
  cases given : request.postupAlias with
  | some value =>
    have : request.decidePostupAlias probe = pure value := by rw [decidePostupAlias, given]
    rw [this]
    exact ⟨value, [], rfl, rfl, .given given, by simp⟩
  | none =>
    have : request.decidePostupAlias probe =
        Compatibility.needsPostupAlias probe request.target := by
      rw [decidePostupAlias, given]
    rw [this]
    obtain ⟨value, result, warnings⟩ := Compatibility.needsPostupAlias_eq_ok probe request.target fs
    exact ⟨value, _, result, rfl, .detected given result, warnings⟩

variable [Circumstances]

/-- The state that a request asks for, or why there is none. -/
def state (request : Request) (fs : FileSystem) : Except Error Network.State := do
  request.check fs
  (Network.resolve request.stateFile request.configFile fs).result

/-- Artifacts dealt with in order: the files before, the files after, the events, and an entry for
each artifact. An artifact that fails is reported, and the files are left to the others. -/
inductive Reconciles (target : Path) :
    FileSystem → List Legacy.Artifact → FileSystem → List Event →
      List (Path × Option Legacy.Outcome) → Prop where
  | nil {fs} :
    Reconciles target fs [] fs [] []
  | settled {fs artifact rest after events entries outcome} :
    (Legacy.reconcile target artifact fs).result = .ok outcome →
    Reconciles target (Legacy.reconcile target artifact fs).files rest after events entries →
    Reconciles target fs (artifact :: rest) after
      (Note.events (Legacy.reconcile target artifact fs).notes ++ events)
      ((artifact.path, some outcome) :: entries)
  | failed {fs artifact rest after events entries error} :
    (Legacy.reconcile target artifact fs).result = .error error →
    Reconciles target fs rest after events entries →
    Reconciles target fs (artifact :: rest) after
      (.failure (target.join artifact.path) error.message :: events)
      ((artifact.path, none) :: entries)

/-- There is an entry for each artifact, in order. -/
lemma Reconciles.paths {target fs artifacts after events entries}
    (h : Reconciles target fs artifacts after events entries) :
    entries.map Prod.fst = artifacts.map Legacy.Artifact.path := by
  induction h with
  | nil => rfl
  | settled _ _ ih => exact congrArg (_ :: ·) ih
  | failed _ _ ih => exact congrArg (_ :: ·) ih

/-- Dealing with artifacts never fails. -/
lemma reconcileAll_spec (request : Request) (artifacts : List Legacy.Artifact) (fs : FileSystem) :
    ∃ entries events, (request.reconcileAll artifacts fs).result = .ok entries ∧
      Note.events (request.reconcileAll artifacts fs).notes = events ∧
      Reconciles request.target fs artifacts (request.reconcileAll artifacts fs).files events
        entries := by
  induction artifacts generalizing fs with
  | nil => exact ⟨[], [], rfl, rfl, .nil⟩
  | cons artifact rest ih =>
    rw [reconcileAll]
    cases result : (Legacy.reconcile request.target artifact fs).result with
    | ok outcome =>
      have first : request.reconcile artifact fs =
          ⟨.ok (artifact.path, some outcome), (Legacy.reconcile request.target artifact fs).files,
            (Legacy.reconcile request.target artifact fs).notes⟩ := by
        rw [reconcile, Job.bind_of_ok (show (Job.attempt _ fs).result = .ok _ from rfl), result]
        simp [Job.pure_apply, Job.attempt]
      obtain ⟨entries, events, ok, reported, others⟩ :=
        ih (Legacy.reconcile request.target artifact fs).files
      rw [Job.bind_of_ok (congrArg Done.result first), first]
      dsimp only
      rw [Job.bind_of_ok ok]
      refine ⟨_, _, rfl, ?_, .settled result others⟩
      simp [reported, Job.pure_apply]
    | error error =>
      have first : request.reconcile artifact fs =
          ⟨.ok (artifact.path, none), fs,
            [.event (.failure (request.target.join artifact.path) error.message)]⟩ := by
        rw [reconcile, Job.bind_of_ok (show (Job.attempt _ fs).result = .ok _ from rfl), result]
        simp only [Job.attempt, show Legacy.reconcile request.target artifact fs = _ from
          Legacy.reconcile_error result]
        rfl
      -- a failure has done nothing, so the others find the files as they were
      obtain ⟨entries, events, ok, reported, others⟩ := ih fs
      rw [Job.bind_of_ok (congrArg Done.result first), first]
      dsimp only
      rw [Job.bind_of_ok ok]
      refine ⟨_, _, rfl, ?_, .failed result others⟩
      simp [reported, Job.pure_apply]

/-! ## The whole run -/

variable {request : Request} {renderer : Renderer} {probe : Package.Probe} {fs : FileSystem}

/-- A run that finds no state ends there. -/
lemma apply_of_no_state {error : Error} (h : request.state fs = .error error) :
    ∃ remarks : List Remark, ∀ renderer probe,
      request.apply renderer probe fs = ⟨.error error, fs, remarks.map .remark⟩ := by
  cases check : request.check fs with
  | error fault =>
    rw [state, check] at h
    cases h
    refine ⟨[], fun renderer probe => ?_⟩
    have look : (Job.look request.check : Job Note Unit) fs = ⟨.error error, fs, []⟩ := by
      simp [Job.look, check]
    rw [apply, Job.bind_of_error (congrArg Done.result look), look]
    rfl
  | ok =>
    have look : (Job.look request.check : Job Note Unit) fs = ⟨.ok (), fs, []⟩ := by
      simp [Job.look, check]
    rw [state, check] at h
    refine ⟨(Network.resolve request.stateFile request.configFile fs).notes,
      fun renderer probe => ?_⟩
    rw [apply, Job.bind_of_ok (congrArg Done.result look), look]
    dsimp only
    rw [Job.bind_of_error (Job.result_noting _ _ |>.trans h)]
    rw [Job.files_noting, Network.resolve_onlyLooks]
    rfl

/-- A run that finds its state goes on to decide on aliases, and then carries the request out. -/
lemma apply_of_state {state : Network.State} (h : request.state fs = .ok state) :
    ∃ remarks : List Remark, ∀ renderer probe, request.apply renderer probe fs =
      let rest := (request.decidePostupAlias probe >>= request.carryOut renderer state) fs
      ⟨rest.result, rest.files, remarks.map .remark ++ rest.notes⟩ := by
  cases check : request.check fs with
  | error fault =>
    rw [Request.state, check] at h
    cases h
  | ok =>
    have look : (Job.look request.check : Job Note Unit) fs = ⟨.ok (), fs, []⟩ := by
      simp [Job.look, check]
    rw [Request.state, check] at h
    refine ⟨(Network.resolve request.stateFile request.configFile fs).notes,
      fun renderer probe => ?_⟩
    rw [apply, Job.bind_of_ok (congrArg Done.result look), look]
    dsimp only
    rw [Job.bind_of_ok (Job.result_noting _ _ |>.trans h)]
    rw [Job.files_noting, Network.resolve_onlyLooks]
    rfl

/-- A renderer that fails ends the run. -/
lemma carryOut_of_error {state : Network.State} {postupAlias : Bool} {error : Error}
    (h : (renderer ⟨request.target, state, postupAlias⟩ fs).result = .error error) :
    (request.carryOut renderer state postupAlias fs).Shows (.error error)
      (renderer ⟨request.target, state, postupAlias⟩ fs).files [] := by
  rw [carryOut, Job.say_bind, Job.bind_of_error (Job.result_noting _ _ |>.trans h)]
  exact ⟨rfl, rfl, by simp⟩

/-- After a renderer that succeeds, artifacts are dealt with, and the hooks decide how it ends. -/
lemma carryOut_of_ok {state : Network.State} {postupAlias : Bool}
    (h : (renderer ⟨request.target, state, postupAlias⟩ fs).result = .ok ()) :
    ∃ after events legacy,
      Reconciles request.target (renderer ⟨request.target, state, postupAlias⟩ fs).files
        Legacy.known after events legacy ∧
      (∀ hooks, (Hook.installAll request.target Hook.all after).result = .ok hooks →
        (request.carryOut renderer state postupAlias fs).Shows (.ok ⟨postupAlias, legacy, hooks⟩)
          (Hook.installAll request.target Hook.all after).files
          (events ++ Note.events (Hook.installAll request.target Hook.all after).notes)) ∧
      ∀ error, (Hook.installAll request.target Hook.all after).result = .error error →
        (request.carryOut renderer state postupAlias fs).Shows (.error error)
          (Hook.installAll request.target Hook.all after).files
          (events ++ Note.events (Hook.installAll request.target Hook.all after).notes) := by
  obtain ⟨legacy, events, result, reported, reconciles⟩ := request.reconcileAll_spec Legacy.known
    (renderer ⟨request.target, state, postupAlias⟩ fs).files
  refine ⟨_, events, legacy, reconciles, ?_, ?_⟩
  · intro hooks installed
    rw [carryOut, Job.say_bind, Job.bind_of_ok (Job.result_noting _ _ |>.trans h),
      Job.files_noting, Job.bind_of_ok result, Job.bind_of_ok installed, Job.say_bind]
    exact ⟨rfl, rfl, by simp [reported, Job.pure_apply]⟩
  · intro error failed
    rw [carryOut, Job.say_bind, Job.bind_of_ok (Job.result_noting _ _ |>.trans h),
      Job.files_noting, Job.bind_of_ok result, Job.bind_of_error failed]
    exact ⟨rfl, rfl, by simp [reported]⟩

/-- A run that finds its state and decides on aliases ends as carrying out the request does. -/
lemma apply_of_decided {state : Network.State} {value : Bool} (h : request.state fs = .ok state)
    (decided : (request.decidePostupAlias probe fs).result = .ok value) :
    (request.apply renderer probe fs).result =
        (request.carryOut renderer state value (request.decidePostupAlias probe fs).files).result ∧
      (request.apply renderer probe fs).files =
        (request.carryOut renderer state value (request.decidePostupAlias probe fs).files).files := by
  obtain ⟨remarks, goes⟩ := apply_of_state h
  rw [goes]
  dsimp only
  rw [Job.bind_of_ok decided]
  exact ⟨rfl, rfl⟩

/-- What a run that ends well has gone through. -/
lemma apply_eq_ok {applied : Applied}
    (done : (request.apply renderer probe fs).result = .ok applied) :
    ∃ state rendered reconciled events, request.state fs = .ok state ∧
      (request.decidePostupAlias probe fs).result = .ok applied.postupAlias ∧
      renderer ⟨request.target, state, applied.postupAlias⟩
        (request.decidePostupAlias probe fs).files = rendered ∧
      rendered.result = .ok () ∧
      Reconciles request.target rendered.files Legacy.known reconciled events applied.legacy ∧
      (Hook.installAll request.target Hook.all reconciled).result = .ok applied.hooks ∧
      (request.apply renderer probe fs).files =
        (Hook.installAll request.target Hook.all reconciled).files := by
  cases found : request.state fs with
  | error error =>
    obtain ⟨remarks, ends⟩ := apply_of_no_state found
    rw [ends] at done
    cases done
  | ok state =>
    obtain ⟨value, -, decided, -⟩ := request.decidePostupAlias_spec probe fs
    obtain ⟨result, files⟩ := apply_of_decided found decided
    rw [result] at done
    cases rendering : (renderer ⟨request.target, state, value⟩
        (request.decidePostupAlias probe fs).files).result with
    | error error =>
      rw [(carryOut_of_error rendering).result] at done
      cases done
    | ok =>
      obtain ⟨reconciled, events, legacy, reconciles, installs, fails⟩ := carryOut_of_ok rendering
      cases installed : (Hook.installAll request.target Hook.all reconciled).result with
      | error error =>
        rw [(fails error installed).result] at done
        cases done
      | ok hooks =>
        have shows := installs hooks installed
        rw [shows.result] at done
        cases done
        exact ⟨state, _, reconciled, events, rfl, decided, rfl, rendering, reconciles, installed,
          files.trans shows.files⟩

/-- A run that is told how to bring up aliases does not depend on the probe. -/
lemma apply_of_postupAlias {value : Bool} (h : request.postupAlias = some value)
    (probe' : Package.Probe) :
    request.apply renderer probe' fs = request.apply renderer probe fs := by
  have same : request.decidePostupAlias probe' = request.decidePostupAlias probe := by
    rw [decidePostupAlias, decidePostupAlias, h]
  rw [apply, apply, same]

/-- In all circumstances, a run keeps its failure classes. Without a state, nothing is done, and
neither the renderer nor the probe is asked. A renderer that fails ends the run, with nothing but
warnings reported. Otherwise all artifacts are dealt with in order, whatever happens to each, and the
run ends well exactly when the hooks are installed. The way to bring up aliases is the same in the
rendering and in the report, and it does not depend on the probe if the request says it. -/
theorem apply_keeps_failure_classes (request : Request) (renderer : Renderer)
    (probe : Package.Probe) (fs : FileSystem) :
    (∀ error, request.state fs = .error error →
      (request.apply renderer probe fs).Shows (.error error) fs [] ∧
      ∀ renderer' probe', request.apply renderer' probe' fs = request.apply renderer probe fs) ∧
    (∀ value, request.postupAlias = some value →
      ∀ probe', request.apply renderer probe' fs = request.apply renderer probe fs) ∧
    ∀ state, request.state fs = .ok state →
      ∃ postupAlias decided warnings,
        request.Decides probe fs postupAlias decided warnings ∧
        (∀ event ∈ warnings, ∃ message, event = .warning message) ∧
        ∀ rendered, renderer ⟨request.target, state, postupAlias⟩ decided = rendered →
          (∀ error, rendered.result = .error error →
            (request.apply renderer probe fs).Shows (.error error) rendered.files warnings) ∧
          (rendered.result = .ok () →
            ∃ after events legacy,
              Reconciles request.target rendered.files Legacy.known after events legacy ∧
              legacy.map Prod.fst = Legacy.known.map Legacy.Artifact.path ∧
              ∀ installed, Hook.installAll request.target Hook.all after = installed →
                (∀ hooks, installed.result = .ok hooks →
                  (request.apply renderer probe fs).Shows (.ok ⟨postupAlias, legacy, hooks⟩)
                    installed.files (warnings ++ events ++ Note.events installed.notes)) ∧
                ∀ error, installed.result = .error error →
                  (request.apply renderer probe fs).Shows (.error error)
                    installed.files (warnings ++ events ++ Note.events installed.notes)) := by
  refine ⟨?_, fun value h probe' => apply_of_postupAlias h probe', ?_⟩
  · intro error h
    obtain ⟨remarks, ends⟩ := apply_of_no_state h
    refine ⟨?_, fun renderer' probe' => (ends renderer' probe').trans (ends renderer probe).symm⟩
    rw [ends]
    exact ⟨rfl, rfl, by simp⟩
  · intro state h
    obtain ⟨remarks, goes⟩ := apply_of_state h
    obtain ⟨postupAlias, warnings, decision, reported, decides, only⟩ :=
      request.decidePostupAlias_spec probe fs
    refine ⟨postupAlias, _, warnings, decides, only, ?_⟩
    rintro rendered rfl
    -- what carrying out the request shows is what the run shows, after the warnings
    have shows {result files events}
        (s : (request.carryOut renderer state postupAlias
          (request.decidePostupAlias probe fs).files).Shows result files events) :
        (request.apply renderer probe fs).Shows result files (warnings ++ events) := by
      rw [goes]
      simp only [Job.bind_of_ok decision]
      exact ⟨s.result, s.files, by simp [reported, s.events]⟩
    refine ⟨?_, ?_⟩
    · intro error failed
      have := shows (carryOut_of_error failed)
      rwa [List.append_nil] at this
    · intro ok
      obtain ⟨after, events, legacy, reconciles, installs, fails⟩ := carryOut_of_ok ok
      refine ⟨after, events, legacy, reconciles, reconciles.paths, ?_⟩
      rintro installed rfl
      rw [List.append_assoc]
      exact ⟨fun hooks done => shows (installs hooks done),
        fun error done => shows (fails error done)⟩

end Request
end TargetNet
