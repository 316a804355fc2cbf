import Mathlib.Data.List.Forall2
import Mathlib.Data.List.Infix
import Mathlib.Tactic.Common
import TargetNet.Places
import TargetNet.Proofs.Apply
import TargetNet.Proofs.Legacy.LinkFree
import TargetNet.Proofs.Package.Probe
import TargetNet.Proofs.Yaml.Reading

/-!
# The phases of a run

Over a target without links, each phase of a run does its part of the tree: rendering and installing
put files in place, and the artifacts settle. The paths that a run touches lie apart, none on the way
to another, so no phase undoes or disturbs what an earlier one did, and in the end the target is
settled (`settled_of_apply`). A run ends well if it finds its directories there (`apply_of_isReady`).

The system may refuse to read or to remove what it will. Only an annotation that cannot be written is
reported without ending the run and without a word in the outcome, so this one write has to be allowed.
-/

namespace TargetNet

open FileSystem (ChangesOnly Grounded IsTree LinkFree)

/-! ## The paths of a run -/

/-- The files of a target that a run writes. -/
def writtenFiles : List Path :=
  [Renderer.interfacesPath, Renderer.rulesPath, Renderer.switchPath] ++ Hook.all.map Hook.path

/-- The paths that a run writes or removes are plain. -/
lemma targetFiles_isPlain : ∀ path ∈ targetFiles, path.IsPlain := by
  have relative : ∀ path ∈ targetFiles, path.relative = .ok path := by decide +kernel
  have short : ∀ path ∈ targetFiles, ∀ name ∈ path.named, name.length ≤ Path.maxName := by
    decide +kernel
  exact fun path mem => ⟨relative path mem, short path mem⟩

/-- None of these paths is above another one. -/
lemma targetFiles_apart : targetFiles.Pairwise Path.Apart := by
  decide +kernel

/-- What is on the way both to an artifact and to a hook is on the way to the stanzas. -/
lemma common_way {artifact : Legacy.Artifact} (ha : artifact ∈ Legacy.known) {hook : Hook}
    (hh : hook ∈ Hook.all) {way : List Name} (h : way <+: artifact.path.named)
    (h' : way <+: hook.path.named) :
    way <+: Renderer.interfacesPath.named ∧ way ≠ Renderer.interfacesPath.named := by
  have all : ∀ artifact ∈ Legacy.known, ∀ hook ∈ Hook.all, ∀ way ∈ artifact.path.named.inits,
      way <+: hook.path.named →
        way <+: Renderer.interfacesPath.named ∧ way ≠ Renderer.interfacesPath.named := by
    decide +kernel
  exact all artifact ha hook hh way ((List.mem_inits _ _).2 h) h'

variable {base : Location}

namespace Request

variable {request : Request} {probe : Package.Probe} {fs : FileSystem} {target : Path}

/-! ## The paths of each phase -/

/-- How the paths of the phases lie to each other. -/
lemma phases_apart :
    ([Renderer.interfacesPath, Renderer.rulesPath, Renderer.switchPath].Pairwise Path.Apart ∧
      (Legacy.known.map Legacy.Artifact.path).Pairwise Path.Apart ∧
      ∀ p ∈ [Renderer.interfacesPath, Renderer.rulesPath, Renderer.switchPath],
        ∀ q ∈ Legacy.known.map Legacy.Artifact.path, p.Apart q) ∧
    (Hook.all.map Hook.path).Pairwise Path.Apart ∧
    ∀ p ∈ [Renderer.interfacesPath, Renderer.rulesPath, Renderer.switchPath] ++
        Legacy.known.map Legacy.Artifact.path,
      ∀ q ∈ Hook.all.map Hook.path, p.Apart q := by
  have all := targetFiles_apart
  rwa [targetFiles, List.pairwise_append, List.pairwise_append] at all

/-- What is rendered goes to the paths of the renderer. -/
lemma path_of_writes {state : Network.State} {postupAlias : Bool} {write : TargetWrite}
    (mem : write ∈ Renderer.writes state postupAlias) :
    write.path ∈ [Renderer.interfacesPath, Renderer.rulesPath, Renderer.switchPath] :=
  List.mem_map_of_mem (f := TargetWrite.path) mem

/-- What is rendered goes to plain paths. -/
lemma plain_of_writes {state : Network.State} {postupAlias : Bool} :
    ∀ write ∈ Renderer.writes state postupAlias, write.path.IsPlain := by
  intro write mem
  have path := path_of_writes mem
  exact targetFiles_isPlain _ (List.mem_append_left _ (List.mem_append_left _ path))

/-- The artifacts are under plain paths. -/
lemma plain_of_known : ∀ artifact ∈ Legacy.known, artifact.path.IsPlain := by
  intro artifact mem
  have : artifact.path ∈ Legacy.known.map Legacy.Artifact.path := List.mem_map_of_mem mem
  exact targetFiles_isPlain _ (List.mem_append_left _ (List.mem_append_right _ this))

/-- The hooks are installed under plain paths. -/
lemma plain_of_hooks : ∀ hook ∈ Hook.all, hook.path.IsPlain := by
  intro hook mem
  have : hook.path ∈ Hook.all.map Hook.path := List.mem_map_of_mem mem
  exact targetFiles_isPlain _ (List.mem_append_right _ this)

/-- Hooks as writes go to plain paths. -/
lemma plain_of_asWrite : ∀ write ∈ Hook.all.map Hook.asWrite, write.path.IsPlain :=
  List.forall_mem_map.2 plain_of_hooks

/-- The privacy extensions are the one artifact with an annotation. -/
lemma eq_of_annotate {artifact : Legacy.Artifact} {note : String} (mem : artifact ∈ Legacy.known)
    (policy : artifact.policy = .annotate note) :
    artifact = Legacy.privacyConfig ∧ note = Legacy.privacyAnnotation := by
  rcases List.mem_cons.1 mem with rfl | mem
  · cases policy
  · obtain rfl := List.mem_singleton.1 mem
    cases policy
    exact ⟨rfl, rfl⟩

/-! ## Before the first write -/

/-- Deciding on aliases leaves the files alone: the request says it, or the probe only looks. -/
def DecidesQuietly (request : Request) (probe : Package.Probe) : Prop :=
  request.postupAlias ≠ none ∨ probe.OnlyLooks

/-- Where the decision about aliases is quiet, no file is changed. -/
lemma DecidesQuietly.files (quiet : request.DecidesQuietly probe) :
    (request.decidePostupAlias probe fs).files = fs := by
  rw [decidePostupAlias]
  cases given : request.postupAlias with
  | some value => rfl
  | none =>
    obtain said | looks := quiet
    · exact absurd given said
    · exact Compatibility.needsPostupAlias_onlyLooks looks request.target fs

/-- What a request must say and where its target must lead for it to pass its check. -/
lemma check_eq_ok_iff :
    request.check fs = .ok () ↔ request.target.bytes ≠ [] ∧
      (request.stateFile.isNone && request.configFile.isNone) = false ∧
      fs.isDirectory request.target = true := by
  rw [check]
  split
  case isTrue empty => simp [empty]
  case isFalse given =>
    split
    case isTrue missing => simp [missing]
    case isFalse sourced =>
      rw [Bool.not_eq_true] at sourced
      split
      case isTrue directory => exact ⟨fun _ => ⟨given, sourced, directory⟩, fun _ => rfl⟩
      case isFalse other => exact ⟨by rintro ⟨⟩, fun h => absurd h.2.2 other⟩

variable [Circumstances]

/-- The target of a request with a state is a directory. -/
lemma grounded_of_state {state : Network.State} (tree : fs.IsTree)
    (root : fs.resolve request.target = .ok base) (free : fs.LinkFree base)
    (found : request.state fs = .ok state) : fs.Grounded request.target base := by
  obtain ⟨_, check, -⟩ := Yaml.bind_eq_ok_iff.1 found
  obtain ⟨-, -, isDirectory⟩ := check_eq_ok_iff.1 check
  obtain ⟨goal, there, hd⟩ :=
    FileSystem.find_eq_ok_iff.1 (FileSystem.isDirectory_iff.1 isDirectory)
  cases root.symm.trans there
  exact ⟨tree, FileSystem.leads_of_resolve root hd, free⟩

/-! ## The artifacts -/

/-- The first artifact is reconciled, and what becomes of it is entered; then the others are. -/
lemma Reconciles.of_cons {after : FileSystem} {artifact : Legacy.Artifact}
    {artifacts : List Legacy.Artifact} {events : List Event}
    {entries : List (Path × Option Legacy.Outcome)}
    (h : Reconciles target fs (artifact :: artifacts) after events entries) :
    ∃ events' others,
      entries = (artifact.path, (Legacy.reconcile target artifact fs).result.toOption) :: others ∧
      Reconciles target (Legacy.reconcile target artifact fs).files artifacts after events'
        others := by
  cases h with
  | settled ok reconciles => exact ⟨_, _, by rw [ok]; rfl, reconciles⟩
  | @failed _ _ _ _ events others error failed reconciles =>
    refine ⟨events, others, by rw [failed]; rfl, ?_⟩
    rw [Legacy.reconcile_error failed]
    exact reconciles

/-- Artifacts that lie apart settle one after another, each as if it were alone. -/
lemma Reconciles.of_grounded {before fs after : FileSystem} {artifacts : List Legacy.Artifact}
    {events : List Event} {entries : List (Path × Option Legacy.Outcome)}
    (h : Reconciles target fs artifacts after events entries) (g : fs.Grounded target base)
    (plain : ∀ artifact ∈ artifacts, artifact.path.IsPlain)
    (annotating : ∀ artifact ∈ artifacts, artifact.MayAnnotate target)
    (apart : (artifacts.map Legacy.Artifact.path).Pairwise Path.Apart)
    (same : ∀ artifact ∈ artifacts,
      fs.get? (artifact.place base) = before.get? (artifact.place base)) :
    fs.ChangesOnly after (artifacts.map (Legacy.Artifact.place base)) [] ∧
      after.Grounded target base ∧
      List.Forall₂ (fun artifact entry => ∃ outcome, entry = (artifact.path, outcome) ∧
        artifact.Settles target (before.get? (artifact.place base)) outcome
          (after.get? (artifact.place base)) ∧
        (artifact.IsLasting target → artifact.RestsAs target after (outcome.map .again)))
        artifacts entries := by
  induction artifacts generalizing fs events entries with
  | nil =>
    cases h
    exact ⟨.refl _ _ _, g, .nil⟩
  | cons artifact rest ih =>
    obtain ⟨_, entries, rfl, h'⟩ := h.of_cons
    obtain ⟨plain, plain'⟩ := List.forall_mem_cons.1 plain
    obtain ⟨annotating, annotating'⟩ := List.forall_mem_cons.1 annotating
    obtain ⟨apart, apart'⟩ := List.pairwise_cons.1 apart
    obtain ⟨same, same'⟩ := List.forall_mem_cons.1 same
    have apart (other : Legacy.Artifact) (mem : other ∈ rest) : artifact.path.Apart other.path :=
      apart _ (List.mem_map_of_mem mem)
    obtain ⟨outcome, ended, changes, g', settles, rests⟩ :=
      Legacy.reconcile_of_grounded g plain annotating
    obtain ⟨changes', g'', others⟩ := ih h' g' plain' annotating' apart' fun other mem => by
      rw [← same' other mem]
      exact changes.same (fun h => (apart other mem).place_ne (List.mem_singleton.1 h).symm)
        (by simp)
    -- no other artifact is on the way to this one
    have off (way : List Name) (h : way <+: artifact.path.named) :
        base ++ way ∉ rest.map (Legacy.Artifact.place base) := by
      intro mem
      obtain ⟨other, mem, e⟩ := List.mem_map.1 mem
      exact (apart other mem).2 (List.append_cancel_left e ▸ h)
    have stays (way : List Name) (h : way <+: artifact.path.named) :=
      changes'.same (off way h) (by simp)
    refine ⟨changes.trans changes', g'', .cons ⟨outcome, by rw [ended], ?_, ?_⟩ others⟩
    · rw [← same, Legacy.Artifact.place, stays _ List.prefix_rfl]
      exact settles
    · rw [Legacy.Artifact.RestsAs, Legacy.inspect_congr g' g'' plain stays]
      exact rests

/-- Artifacts at rest are left alone. -/
lemma Reconciles.of_restsAs {fs after : FileSystem} {artifacts : List Legacy.Artifact}
    {events : List Event} {entries expected : List (Path × Option Legacy.Outcome)}
    (h : Reconciles target fs artifacts after events entries) (g : fs.Grounded target base)
    (plain : ∀ artifact ∈ artifacts, artifact.path.IsPlain)
    (rests : List.Forall₂ (fun artifact entry => ∃ outcome,
      entry = (artifact.path, outcome) ∧ artifact.RestsAs target fs outcome)
        artifacts expected) :
    after = fs ∧ entries = expected := by
  induction artifacts generalizing events entries expected with
  | nil =>
    cases h
    cases rests
    exact ⟨rfl, rfl⟩
  | cons artifact rest ih =>
    obtain ⟨_, entries, rfl, h'⟩ := h.of_cons
    obtain ⟨plain, plain'⟩ := List.forall_mem_cons.1 plain
    cases rests with
    | cons first others =>
      obtain ⟨outcome, rfl, rests⟩ := first
      obtain ⟨ended, files⟩ := Legacy.reconcile_of_restsAs g plain rests
      rw [files] at h'
      obtain ⟨rfl, rfl⟩ := ih h' plain' others
      exact ⟨rfl, by rw [ended]⟩

/-! ## The whole run -/

/-- What a run over a target without links leaves, phase by phase. -/
structure Settled (request : Request) (state : Network.State) (applied : Applied)
    (base : Location) (fs after : FileSystem) : Prop where
  grounded : after.Grounded request.target base
  changes : fs.ChangesOnly after (targetFiles.map (base ++ ·.named))
    (writtenFiles.map (base ++ ·.named))
  rendered : ∀ write ∈ Renderer.writes state applied.postupAlias,
    write.IsInPlace request.target base after
  installed : ∀ write ∈ Hook.all.map Hook.asWrite, write.IsInPlace request.target base after
  hooks : applied.hooks = Hook.all.map (request.target.join ·.path)
  legacy : List.Forall₂ (fun artifact entry => ∃ outcome,
    entry = (artifact.path, outcome) ∧
      artifact.Settles request.target (fs.get? (artifact.place base)) outcome
        (after.get? (artifact.place base)) ∧
      (artifact.IsLasting request.target →
        artifact.RestsAs request.target after (outcome.map .again))) Legacy.known applied.legacy
  /-- The system has allowed what was written. -/
  allowed : ∀ write ∈ Renderer.writes state applied.postupAlias ++ Hook.all.map Hook.asWrite,
    Circumstances.writing (request.target.join write.path) = .none

/-- The annotation of the privacy extensions has no lines that count. -/
lemma lasting_of_known
    (readable : Circumstances.reading (target.join Legacy.privacyConfig.path) 0o644 = none) :
    ∀ artifact ∈ Legacy.known, artifact.IsLasting target := by
  intro artifact mem note policy
  obtain ⟨rfl, rfl⟩ := eq_of_annotate mem policy
  refine ⟨?_, readable⟩
  rw [Legacy.contentLinesOf_privacyAnnotation]
  rintro ⟨⟩

/-- Where the annotation of the privacy extensions is allowed, all are. -/
lemma mayAnnotate_of_known
    (annotating : Circumstances.writing (target.join Legacy.privacyConfig.path) = .none) :
    ∀ artifact ∈ Legacy.known, artifact.MayAnnotate target := by
  intro artifact mem note policy
  obtain ⟨rfl, -⟩ := eq_of_annotate mem policy
  exact annotating

/-- Below a target without links, rendering changes the places of its files only and leaves each in
place. -/
lemma rendered_of_grounded (g : fs.Grounded target base)
    {state : Network.State} {postupAlias : Bool} {after : FileSystem}
    (files : (Renderer.standard ⟨target, state, postupAlias⟩ fs).files = after)
    (ok : (Renderer.standard ⟨target, state, postupAlias⟩ fs).result = .ok ()) :
    fs.ChangesOnly after ((Renderer.writes state postupAlias).map (TargetWrite.place base))
        ((Renderer.writes state postupAlias).map (TargetWrite.place base)) ∧
      after.Grounded target base ∧
      ∀ write ∈ Renderer.writes state postupAlias, write.IsInPlace target base after := by
  obtain ⟨same, succeeds⟩ := Renderer.standard_follows target state postupAlias fs
  rw [← files, same]
  exact TargetWrite.filesAfter_of_grounded g plain_of_writes
    phases_apart.1.1 (succeeds.1 ⟨(), ok⟩)

/-- Below a target without links, installing hooks changes their places only and leaves each in
place. -/
lemma installed_of_grounded (g : fs.Grounded target base) {hooks : List Path}
    {after : FileSystem} (files : (Hook.installAll target Hook.all fs).files = after)
    (ok : (Hook.installAll target Hook.all fs).result = .ok hooks) :
    fs.ChangesOnly after ((Hook.all.map Hook.asWrite).map (TargetWrite.place base))
        ((Hook.all.map Hook.asWrite).map (TargetWrite.place base)) ∧
      after.Grounded target base ∧
      ∀ write ∈ Hook.all.map Hook.asWrite, write.IsInPlace target base after := by
  obtain ⟨same, succeeds⟩ := Hook.installAll_follows target Hook.all fs
  rw [← files, same]
  exact TargetWrite.filesAfter_of_grounded g plain_of_asWrite
    phases_apart.2.1 (succeeds.1 ⟨hooks, ok⟩)

/-- Hooks are installed under their paths in the target. -/
lemma paths_of_installAll {hooks : List Hook} {paths : List Path}
    (plain : ∀ hook ∈ hooks, hook.path.IsPlain)
    (ok : (Hook.installAll target hooks fs).result = .ok paths) :
    paths = hooks.map (target.join ·.path) := by
  induction hooks generalizing fs paths with
  | nil =>
    cases ok
    rfl
  | cons hook rest ih =>
    obtain ⟨plain, plain'⟩ := List.forall_mem_cons.1 plain
    obtain ⟨path, first, on⟩ := (Job.bind_ok_iff _ _ _ _).1 ok
    obtain ⟨others, rest, last⟩ := (Job.bind_ok_iff _ _ _ _).1 on
    cases last
    rw [ih plain' rest, List.map_cons]
    congr 1
    obtain ⟨path', accepted, first⟩ := (Job.bind_ok_iff _ _ _ _).1 first
    obtain ⟨_, -, first⟩ := (Job.bind_ok_iff _ _ _ _).1 first
    cases first
    have accepted : targetPathIn fs target hook.path = .ok path := mapError_eq_ok_iff.1 accepted
    obtain ⟨names, -, -, relative, rfl, -⟩ := targetPathIn_eq_ok accepted
    rw [← Except.ok.inj (plain.relative.symm.trans relative)]

/-- What is found of an artifact does not depend on the hooks. -/
lemma restsAs_of_installed {reconciled after : FileSystem} {artifact : Legacy.Artifact}
    {outcome : Option Legacy.Outcome} (mem : artifact ∈ Legacy.known)
    (g : reconciled.Grounded target base) (g' : after.Grounded target base)
    (c : reconciled.ChangesOnly after ((Hook.all.map Hook.asWrite).map (TargetWrite.place base))
      ((Hook.all.map Hook.asWrite).map (TargetWrite.place base)))
    {entry : Entry} (there : reconciled.get? (base ++ Renderer.interfacesPath.named) = some entry)
    (rests : artifact.RestsAs target reconciled outcome) :
    artifact.RestsAs target after outcome := by
  have place {l : Location}
      (h : l ∈ (Hook.all.map Hook.asWrite).map (TargetWrite.place base)) :
      ∃ hook ∈ Hook.all, l = base ++ hook.path.named := by
    rw [List.map_map] at h
    obtain ⟨hook, mem, e⟩ := List.mem_map.1 h
    exact ⟨hook, mem, e.symm⟩
  have apart {hook : Hook} (h : hook ∈ Hook.all) : artifact.path.Apart hook.path :=
    phases_apart.2.2 _ (List.mem_append_right _ (List.mem_map_of_mem mem)) _
      (List.mem_map_of_mem h)
  rw [Legacy.Artifact.RestsAs, Legacy.inspect_congr g g' (plain_of_known artifact mem)]
  · exact rests
  · intro way before
    cases c.each (base ++ way) with
    | same e => exact e
    | replaced h _ _ =>
      obtain ⟨hook, hh, e⟩ := place h
      exact absurd (List.append_cancel_left e ▸ before) (apart hh).2
    | made h on missing _ =>
      -- no hook has a directory made for it that is on the way to an artifact as well
      exfalso
      obtain ⟨hook, hh, rfl⟩ := place h
      obtain ⟨⟨more, e⟩, ne⟩ :=
        common_way mem hh before ((List.prefix_append_right_inj _).1 on)
      have some : more ≠ [] := by
        rintro rfl
        exact ne ((List.append_nil _).symm.trans e)
      rw [← e, ← List.append_assoc] at there
      rw [g.tree.directory some there] at missing
      cases missing

/-- A run that ends well settles the target. -/
theorem settled_of_apply {applied : Applied} (tree : fs.IsTree)
    (root : fs.resolve request.target = .ok base) (free : fs.LinkFree base)
    (quiet : request.DecidesQuietly probe)
    (annotating :
      Circumstances.writing (request.target.join Legacy.privacyConfig.path) = .none)
    (done : (request.apply .standard probe fs).result = .ok applied) :
    ∃ state, request.state fs = .ok state ∧
      request.Settled state applied base fs (request.apply .standard probe fs).files := by
  obtain ⟨state, rendered, reconciled, events, found, -, rendering, ok, reconciles, installed,
    files⟩ := apply_eq_ok done
  rw [quiet.files] at rendering
  subst rendering
  obtain ⟨⟨-, apart, across⟩, -, across'⟩ := phases_apart
  obtain ⟨c₁, g₁, there₁⟩ :=
    rendered_of_grounded (grounded_of_state tree root free found) rfl ok
  obtain ⟨c₂, g₂, legacy⟩ := reconciles.of_grounded g₁ plain_of_known
    (mayAnnotate_of_known annotating) apart
    fun artifact mem => TargetWrite.same_of_apart c₁ fun write hw =>
      across _ (path_of_writes hw) _ (List.mem_map_of_mem mem)
  obtain ⟨c₃, g₃, there₃⟩ := installed_of_grounded g₂ rfl installed
  -- no later phase has a place among those of an earlier one
  have there₂ (write : TargetWrite) (mem : write ∈ Renderer.writes state applied.postupAlias) :
      write.IsInPlace request.target base reconciled := by
    refine (there₁ write mem).keeps c₂ fun h => ?_
    obtain ⟨artifact, ha, e⟩ := List.mem_map.1 h
    exact (across _ (path_of_writes mem) _ (List.mem_map_of_mem ha)).place_ne e.symm
  rw [files]
  refine ⟨state, found, g₃, (c₁.trans c₂).trans c₃, ?_, there₃,
    paths_of_installAll plain_of_hooks installed, ?_, ?_⟩
  · intro write mem
    refine (there₂ write mem).keeps c₃ fun h => ?_
    obtain ⟨_, h, e⟩ := List.mem_map.1 h
    obtain ⟨hook, hh, rfl⟩ := List.mem_map.1 h
    have apart := across' _ (List.mem_append_left _ (path_of_writes mem)) _ (List.mem_map_of_mem hh)
    exact apart.place_ne e.symm
  · refine ((List.forall₂_and_left _ _).2 ⟨fun _ mem => mem, legacy⟩).imp ?_
    rintro artifact entry ⟨mem, outcome, e, settles, rests⟩
    have stays : (Hook.installAll request.target Hook.all reconciled).files.get?
        (artifact.place base) = reconciled.get? (artifact.place base) :=
      TargetWrite.same_of_apart c₃ <| List.forall_mem_map.2 fun hook hh =>
        (across' _ (List.mem_append_right _ (List.mem_map_of_mem mem)) _
          (List.mem_map_of_mem hh)).symm
    refine ⟨outcome, e, by rwa [stays], fun lasting => ?_⟩
    exact restsAs_of_installed mem g₂ g₃ c₃ (there₂ _ List.mem_cons_self).file (rests lasting)
  · have succeeds := (Renderer.standard_follows request.target state applied.postupAlias fs).result
    have succeeds' := (Hook.installAll_follows request.target Hook.all reconciled).result
    exact List.forall_mem_append.2
      ⟨TargetWrite.allowed_of_allSucceed plain_of_writes (succeeds.1 ⟨_, ok⟩),
        TargetWrite.allowed_of_allSucceed plain_of_asWrite (succeeds'.1 ⟨_, installed⟩)⟩

/-- A run ends well over a target without links that has the directories of the files it writes, if
the system allows this. -/
theorem apply_of_isReady {state : Network.State} (tree : fs.IsTree)
    (root : fs.resolve request.target = .ok base) (free : fs.LinkFree base)
    (quiet : request.DecidesQuietly probe)
    (allowed : ∀ path ∈ targetFiles, Circumstances.writing (request.target.join path) = .none)
    (found : request.state fs = .ok state)
    (ready : ∀ path ∈ writtenFiles, fs.IsReady request.target base path) :
    ∃ applied, (request.apply .standard probe fs).result = .ok applied := by
  obtain ⟨⟨apart₁, apart₂, across⟩, apart₃, across'⟩ := phases_apart
  obtain ⟨value, -, decided, -⟩ := request.decidePostupAlias_spec probe fs
  have g := grounded_of_state tree root free found
  have rendered : TargetWrite.AllSucceed request.target (Renderer.writes state value) fs :=
    TargetWrite.allSucceed_of_isReady g plain_of_writes
      (fun write mem =>
        allowed _ (List.mem_append_left _ (List.mem_append_left _ (path_of_writes mem))))
      apart₁ fun write mem => ready _ (List.mem_append_left _ (path_of_writes mem))
  obtain ⟨_, ok⟩ :=
    (Renderer.standard_follows request.target state value fs).result.2 rendered
  obtain ⟨c₁, g₁, -⟩ := rendered_of_grounded g rfl ok
  obtain ⟨result, -⟩ := apply_of_decided found decided
  rw [quiet.files] at result
  obtain ⟨reconciled, events, legacy, reconciles, installs, -⟩ :=
    @carryOut_of_ok _ request _ _ _ _ ok
  have annotating := mayAnnotate_of_known
    (allowed Legacy.privacyConfig.path (by simp [targetFiles, Legacy.known]))
  obtain ⟨c₂, g₂, -⟩ := reconciles.of_grounded g₁ plain_of_known annotating apart₂ fun _ _ => rfl
  have installed : TargetWrite.AllSucceed request.target (Hook.all.map Hook.asWrite) reconciled := by
    refine TargetWrite.allSucceed_of_isReady g₂ plain_of_asWrite
      (List.forall_mem_map.2 fun hook mem => allowed _ (List.mem_append_right _ ?_)) apart₃
      (List.forall_mem_map.2 fun hook mem => ?_)
    · exact List.mem_map_of_mem mem
    have mem' : hook.path ∈ Hook.all.map Hook.path := List.mem_map_of_mem mem
    have ready := ready _ (List.mem_append_right _ mem')
    refine (ready.keeps c₁ ?_).keeps c₂ ?_
    · exact TargetWrite.same_of_apart c₁ fun write hw =>
        across' _ (List.mem_append_left _ (path_of_writes hw)) _ mem'
    · refine c₂.same (fun h => ?_) (by simp)
      obtain ⟨artifact, ha, e⟩ := List.mem_map.1 h
      exact (across' _ (List.mem_append_right _ (List.mem_map_of_mem ha)) _ mem').place_ne e
  obtain ⟨hooks, ok'⟩ :=
    (Hook.installAll_follows request.target Hook.all reconciled).result.2 installed
  exact ⟨_, result.trans (installs hooks ok').result⟩

end Request
end TargetNet
