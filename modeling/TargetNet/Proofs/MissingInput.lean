import Mathlib.Tactic.Common
import TargetNet.CommandLine
import TargetNet.Proofs.Apply
import TargetNet.Proofs.Package.Failures

/-!
# Missing input

Who calls the program wrongly is told so by an error of its own. It stands for an input that is not
given, and for nothing else: settings are checked for it before anything is looked at, the request that
they make passes the later checks for it, and all that can fail afterwards fails in another way, each
phase with its own kinds of errors (`input_is_missing_iff`).
-/

namespace TargetNet

/-! ## Errors that are not about it -/

/-- An error that is not about a missing input. -/
def Error.IsOther (error : Error) : Prop :=
  error.kind ≠ .missingInput

/-- A faulty document is no missing input. -/
lemma Network.DocumentError.kind_ne_missingInput (fault : Network.DocumentError) :
    fault.kind ≠ .missingInput := by
  unfold kind
  split <;> nofun

namespace Error

lemma isOther_path (reason : PathError) : (path reason).IsOther := by
  rw [IsOther, kind]
  split <;> nofun

lemma isOther_document (fault : Network.DocumentError) : (document fault).IsOther :=
  fault.kind_ne_missingInput

lemma isOther_write (place : Path) (fault : SystemError) : (write place fault).IsOther := nofun

/-- The kind of an error says whether an input is missing. -/
lemma isMissingInput_iff {error : Error} : error.isMissingInput = true ↔ ¬ error.IsOther := by
  rw [IsOther, not_not]
  cases error with
  | missing input => exact iff_of_true rfl rfl
  | path reason => exact iff_of_false nofun (isOther_path reason)
  | document fault => exact iff_of_false nofun (isOther_document fault)
  | probe reason => exact iff_of_false nofun nofun
  | write place fault => exact iff_of_false nofun nofun
  | render reason => exact iff_of_false nofun nofun
  | file operation place fault => exact iff_of_false nofun nofun
  | system fault => exact iff_of_false nofun nofun
  | unwritable reason => exact iff_of_false nofun nofun

/-- Errors that are wrapped are not about a missing input if the wrapping is not. -/
lemma isOther_of_mapError {ε α : Type} {wrap : ε → Error} (other : ∀ reason, (wrap reason).IsOther)
    {result : Except ε α} {error : Error} (failed : result.mapError wrap = .error error) :
    error.IsOther := by
  cases result with
  | error reason =>
    cases failed
    exact other reason
  | ok a => cases failed

end Error

open Error (IsOther isOther_path isOther_document isOther_write isOther_of_mapError)

/-! ## Files -/

/-- A path below a target is refused as a path. -/
lemma targetPath_failsAs {ν : Type} (root path : Path) :
    (targetPath root path : Job ν Path).FailsAs IsOther :=
  .look fun _ _ => isOther_of_mapError isOther_path

section

variable [Circumstances]

/-- A file is not written because of the file. -/
lemma writeFile_failsAs (path : Path) (content : ByteArray)
    (mode : Nat) : (writeFile path content mode).FailsAs IsOther := by
  rw [writeFile]
  cases path.parent? with
  | none => exact .fail (isOther_path _)
  | some parent =>
    exact .bind (.change fun _ _ => isOther_of_mapError (isOther_write path)) fun _ => .note _

/-! ## Phases -/

/-- With a source given, the state is not there because of the source. -/
lemma Network.resolve_failsAs {stateFile configFile : Option Path}
    (given : stateFile ≠ none ∨ configFile ≠ none) :
    (Network.resolve stateFile configFile).FailsAs IsOther := by
  have read (operation : FileOperation) (path : Path) :
      (Network.readFile operation path).FailsAs IsOther :=
    .look fun _ _ => isOther_of_mapError nofun
  have document {α : Type} (result : Except Network.DocumentError α) :
      (Job.ofExcept (result.mapError .document) : Job Remark α).FailsAs IsOther :=
    .ofExcept fun _ => isOther_of_mapError isOther_document
  have load (path : Path) : (Network.loadState path).FailsAs IsOther :=
    .bind (.note _) fun _ => .bind (read _ _) fun _ => document _
  have loadConfig (path : Path) : (Network.loadConfig path).FailsAs IsOther :=
    .bind (.note _) fun _ => .bind (read _ _) fun _ => .bind (document _) fun _ =>
      .bind (.note _) fun _ => document _
  cases stateFile with
  | some stateFile =>
    cases configFile with
    | some configFile => exact .bind (.note _) fun _ => load stateFile
    | none => exact load stateFile
  | none =>
    cases configFile with
    | some configFile => exact loadConfig configFile
    | none => exact absurd rfl (given.resolve_left (not_not.2 rfl))

/-- The probe that is used fails in two ways: the version is unavailable, or what the query program
wrote is no text. -/
lemma Package.defaultProbe_failsAs (program : Option QueryProgram) (target : Path)
    (package : String) : (defaultProbe program target package).FailsAs IsOther := by
  have unavailable {error : Error} (h : IsUnavailable error) : error.IsOther := by
    rw [IsOther, h]
    nofun
  cases program with
  | none => exact fun fs error failed =>
      unavailable (recordProbe_failsAs parseDatabase target package fs error failed)
  | some program =>
    intro fs error failed
    by_cases text : (program.start (queryArguments target package)).IsText
    · exact unavailable (queryProbe_failsAs defaultTimeout text fs error failed)
    · rw [defaultProbe, queryProbe_of_not_text defaultTimeout text] at failed
      cases failed
      nofun

/-- Rendering does not fail for a missing input. -/
lemma Renderer.standard_failsAs (request : RenderRequest) :
    (Renderer.standard request).FailsAs IsOther := by
  have write (path : Path) (content : ByteArray) (mode : Nat) :
      (writeFile path content mode).FailsAs IsOther := writeFile_failsAs path content mode
  have text (path : Path) (text : String) :
      (Renderer.writeText request.target path text).FailsAs IsOther :=
    .bind (targetPath_failsAs _ _) fun _ => write _ _ _
  exact .bind (targetPath_failsAs _ _) fun _ => .bind (.note _) fun _ => .bind (write _ _ _) fun _ =>
    .bind (text _ _) fun _ => text _ _

/-- Reconciling does not fail for a missing input, whatever goes wrong with the file. -/
lemma Legacy.reconcile_failsAs
    (target : Path) (artifact : Artifact) :
    (reconcile target artifact).FailsAs IsOther := by
  have remove (path : Path) : (removeFile path).FailsAs IsOther := by
    refine .change fun fs error => ?_
    cases remains fs path with
    | ok files => nofun
    | error fault =>
      rintro ⟨⟩
      nofun
  have annotate (path : Path) (text : String) :
      (annotate path text).FailsAs IsOther := by
    refine .bind (.of_ok fun _ => ⟨_, rfl⟩) fun written => ?_
    cases written with
    | ok => exact .of_ok fun _ => ⟨_, rfl⟩
    | error error => exact .note _
  have noted (outcome : Outcome) (event : Event) :
      (do Job.report event; return outcome : Job Note Outcome).FailsAs IsOther :=
    .of_ok fun _ => ⟨_, rfl⟩
  refine .bind (targetPath_failsAs _ _) fun path => .bind (.look nofun) fun inspection => ?_
  split
  · exact noted _ _
  · refine .bind (remove path) fun _ => ?_
    cases artifact.policy with
    | delete => exact noted _ _
    | annotate text => exact .bind (annotate _ _) fun _ => noted _ _

/-- Installing hooks does not fail for a missing input. -/
lemma Hook.installAll_failsAs (target : Path) (hooks : List Hook) :
    (Hook.installAll target hooks).FailsAs IsOther := by
  have install (hook : Hook) : (hook.install target).FailsAs IsOther :=
    .bind (targetPath_failsAs _ _) fun path =>
      .bind (.noting (writeFile_failsAs _ _ _)) fun _ => .bind (.note _) fun _ =>
        .of_ok fun _ => ⟨_, rfl⟩
  induction hooks with
  | nil => exact .of_ok fun _ => ⟨_, rfl⟩
  | cons hook rest ih =>
    exact .bind (install hook) fun _ => .bind ih fun _ => .of_ok fun _ => ⟨_, rfl⟩

end

namespace Request

variable {request : Request} {renderer : Renderer}

/-- A request with a target and a source passes the checks for a missing input, and then only its
directory can be refused. -/
lemma check_eq_of_given (target : request.target.bytes ≠ [])
    (source : request.stateFile ≠ none ∨ request.configFile ≠ none) (fs : FileSystem) :
    request.check fs = if fs.isDirectory request.target then .ok ()
      else .error (.path (.targetNotDirectory request.target)) := by
  have given : (request.stateFile.isNone && request.configFile.isNone) = false := by
    rw [Bool.and_eq_false_iff, Option.isNone_eq_false_iff, Option.isNone_eq_false_iff]
    exact source.imp Option.isSome_iff_ne_none.2 Option.isSome_iff_ne_none.2
  rw [check, if_neg target, given]
  rfl

/-- With a target and a source, and a renderer that fails in other ways, no run fails for a missing
input, whatever the probe does. -/
lemma apply_failsAs [Circumstances] (target : request.target.bytes ≠ [])
    (source : request.stateFile ≠ none ∨ request.configFile ≠ none)
    (renders : ∀ asked, (renderer asked).FailsAs IsOther) (probe : Package.Probe) :
    (request.apply renderer probe).FailsAs IsOther := by
  have checks : (Job.look request.check : Job Note Unit).FailsAs IsOther := by
    refine .look fun fs error failed => ?_
    rw [check_eq_of_given target source] at failed
    split at failed
    · cases failed
    · cases failed
      exact isOther_path _
  have decides : (request.decidePostupAlias probe).FailsAs IsOther := by
    refine .of_ok fun fs => ?_
    obtain ⟨value, -, decided, -⟩ := request.decidePostupAlias_spec probe fs
    exact ⟨value, decided⟩
  have reconciles : (request.reconcileAll Legacy.known).FailsAs IsOther := by
    refine .of_ok fun fs => ?_
    obtain ⟨entries, -, done, -⟩ := request.reconcileAll_spec Legacy.known fs
    exact ⟨entries, done⟩
  have carryOut (state : Network.State) (postupAlias : Bool) :
      (request.carryOut renderer state postupAlias).FailsAs IsOther :=
    .bind (.note _) fun _ => .bind (.noting (renders _)) fun _ => .bind reconciles fun _ =>
      .bind (Hook.installAll_failsAs _ _) fun _ => .bind (.note _) fun _ => .of_ok fun _ => ⟨_, rfl⟩
  exact .bind checks fun _ => .bind (.noting (Network.resolve_failsAs source)) fun _ =>
    .bind decides fun _ => carryOut _ _

end Request

/-! ## Settings -/

/-- A path that is not given: there is none, or it is empty. -/
def IsUnset (path : Option Path) : Prop :=
  ∀ p ∈ path, p.bytes = []

/-- Settings from which a run cannot begin. -/
inductive Settings.LacksInput (settings : Settings) : Prop
  | target : IsUnset settings.target → LacksInput settings
  | sources : IsUnset settings.stateFile → IsUnset settings.configFile → LacksInput settings

/-- An empty path counts as none. -/
lemma nonEmpty_eq_none_iff {path : Option Path} : nonEmpty path = none ↔ IsUnset path := by
  rw [nonEmpty, Option.filter_eq_none_iff, IsUnset]
  simp

namespace Settings

variable {settings : Settings}

/-- Settings that lack an input make no request. -/
lemma toRequest_of_lacksInput (lacks : settings.LacksInput) :
    ∃ input, settings.toRequest = .error (.missing input) := by
  rw [toRequest]
  cases target : nonEmpty settings.target with
  | none => exact ⟨_, rfl⟩
  | some target' =>
    cases lacks with
    | target unset =>
      rw [nonEmpty_eq_none_iff.2 unset] at target
      cases target
    | sources state config =>
      rw [nonEmpty_eq_none_iff.2 state, nonEmpty_eq_none_iff.2 config]
      exact ⟨_, rfl⟩

/-- Settings that lack no input make a request with a target and a source. -/
lemma toRequest_of_not_lacksInput (complete : ¬ settings.LacksInput) :
    ∃ request, settings.toRequest = .ok request ∧ request.target.bytes ≠ [] ∧
      (request.stateFile ≠ none ∨ request.configFile ≠ none) := by
  rw [toRequest]
  cases target : nonEmpty settings.target with
  | none => exact absurd (.target (nonEmpty_eq_none_iff.1 target)) complete
  | some target' =>
    have given : ¬ (nonEmpty settings.stateFile = none ∧ nonEmpty settings.configFile = none) := by
      rw [nonEmpty_eq_none_iff, nonEmpty_eq_none_iff]
      exact fun unset => complete (.sources unset.1 unset.2)
    have proper : target'.bytes ≠ [] := by
      simpa using (Option.filter_eq_some_iff.1 target).2
    refine ⟨_, if_neg ?_, proper, not_and_or.1 given⟩
    simpa using given

end Settings

/-! ## Runs -/

variable [Circumstances]

/-- A run from settings that lack an input ends at once. -/
lemma applyNet_of_lacksInput {settings : Settings} (lacks : settings.LacksInput) :
    ∃ input, ∀ probe fs, applyNet probe settings fs = ⟨.error (.missing input), fs, []⟩ := by
  obtain ⟨input, refused⟩ := Settings.toRequest_of_lacksInput lacks
  refine ⟨input, fun probe fs => ?_⟩
  rw [applyNet, refused]
  rfl

/-- With all input given, a run does not fail for a missing one. -/
lemma applyNet_failsAs {settings : Settings} (complete : ¬ settings.LacksInput)
    (probe : Package.Probe) : (applyNet probe settings).FailsAs IsOther := by
  obtain ⟨request, made, target, source⟩ := Settings.toRequest_of_not_lacksInput complete
  have lines (texts : List String) : (sayAll texts).FailsAs IsOther := by
    induction texts with
    | nil => exact .of_ok fun _ => ⟨_, rfl⟩
    | cons text rest ih => exact .bind (.note _) fun _ => ih
  rw [applyNet, made]
  change (request.apply Renderer.standard probe >>= _).FailsAs IsOther
  exact .bind (Request.apply_failsAs target source Renderer.standard_failsAs probe) fun _ =>
    .noting (lines _)

/-- A run fails for a missing input if and only if the settings lack one. -/
lemma applyNet_isMissing_iff (probe : Package.Probe) (settings : Settings) (fs : FileSystem) :
    (∃ error, (applyNet probe settings fs).result = .error error ∧ error.kind = .missingInput) ↔
      settings.LacksInput := by
  constructor
  · rintro ⟨error, failed, missing⟩
    by_contra complete
    exact applyNet_failsAs complete probe fs error failed missing
  · intro lacks
    obtain ⟨input, ends⟩ := applyNet_of_lacksInput lacks
    exact ⟨_, congrArg Done.result (ends probe fs), rfl⟩

/-- The command always comes to an end, with the status of misuse exactly if it failed for a missing
input. -/
lemma run_applyNet (probe : Package.Probe) (settings : Settings) (fs : FileSystem) :
    ∃ ending, ((Command.applyNet settings).run probe fs).result = .ok ending ∧
      (ending.status = 2 ↔ ∃ error, (applyNet probe settings fs).result = .error error ∧
        error.kind = .missingInput) := by
  rw [Command.run, Job.bind_of_ok rfl]
  cases result : (applyNet probe settings fs).result with
  | ok => exact ⟨.success "", rfl, iff_of_false nofun nofun⟩
  | error error =>
    refine ⟨.failure none error, rfl, ?_⟩
    have status : (Ending.failure none error).status = 2 ↔ error.isMissingInput = true := by
      rw [Ending.status]
      cases error.isMissingInput <;> simp
    rw [status, Error.isMissingInput_iff, Error.IsOther, not_not]
    constructor
    · exact fun missing => ⟨error, rfl, missing⟩
    · rintro ⟨_, ⟨⟩, missing⟩
      exact missing

/-- In all circumstances, applying a configuration fails for a missing input exactly if the settings
lack one, that is, if the target is not given or empty, or if this is so of the state file and of the
config file. Only then is the status that of misuse, and then nothing is read, probed, noted or
written: the run is the same for all probes and files. The request that other settings make is refused
only where its target is no directory, and no phase of a run fails for a missing input: neither finding
the state nor a probe, neither rendering nor writing, neither reconciling nor installing, whatever the
system refuses. -/
theorem input_is_missing_iff (settings : Settings) :
    (∀ probe fs, (∃ error, (applyNet probe settings fs).result = .error error ∧
      error.kind = .missingInput) ↔ settings.LacksInput) ∧
    (∀ probe fs, ∃ ending, ((Command.applyNet settings).run probe fs).result = .ok ending ∧
      (ending.status = 2 ↔ settings.LacksInput)) ∧
    (settings.LacksInput → ∃ input, ∀ probe fs,
      applyNet probe settings fs = ⟨.error (.missing input), fs, []⟩) ∧
    (∀ request, settings.toRequest = .ok request →
      (∀ fs, request.check fs = if fs.isDirectory request.target then .ok ()
        else .error (.path (.targetNotDirectory request.target))) ∧
      (Network.resolve request.stateFile request.configFile).FailsAs IsOther) ∧
    (∀ program target package, (Package.defaultProbe program target package).FailsAs IsOther) ∧
    (∀ asked, (Renderer.standard asked).FailsAs IsOther) ∧
    (∀ path content mode, (writeFile path content mode).FailsAs IsOther) ∧
    (∀ target artifact, (Legacy.reconcile target artifact).FailsAs IsOther) ∧
    (∀ target hooks, (Hook.installAll target hooks).FailsAs IsOther) := by
  refine ⟨fun probe fs => applyNet_isMissing_iff probe settings fs, fun probe fs => ?_,
    applyNet_of_lacksInput, fun request made => ?_, Package.defaultProbe_failsAs,
    Renderer.standard_failsAs, writeFile_failsAs, Legacy.reconcile_failsAs,
    Hook.installAll_failsAs⟩
  · rw [← applyNet_isMissing_iff probe settings fs]
    exact run_applyNet probe settings fs
  · have complete : ¬ settings.LacksInput := by
      intro lacks
      obtain ⟨input, refused⟩ := Settings.toRequest_of_lacksInput lacks
      rw [refused] at made
      cases made
    obtain ⟨request', made', target, source⟩ := Settings.toRequest_of_not_lacksInput complete
    cases made.symm.trans made'
    exact ⟨Request.check_eq_of_given target source, Network.resolve_failsAs source⟩

end TargetNet
