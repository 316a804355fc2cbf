import Mathlib.Data.List.Basic
import Mathlib.Tactic.Common
import TargetNet.Proofs.Apply.Tree

/-!
# Running again

A settled target stays as it is: every file that a second run writes is in place already, and every
artifact rests. So a second run for the same state ends well, changes nothing, and reports what there
is left to find (`apply_again`). The circumstances of the second run are those of the first.
-/

namespace TargetNet

/-- What a second run reports: the same, with the artifacts as they were left. -/
def Applied.again (applied : Applied) : Applied :=
  { applied with legacy := applied.legacy.map fun entry => (entry.1, entry.2.map .again) }

namespace Request

section

variable [Circumstances] {request second : Request} {probe probe' : Package.Probe}
  {fs after : FileSystem} {base : Location} {state : Network.State} {applied : Applied}

/-- A run over a settled target, for the same state, changes nothing. -/
lemma Settled.again (settled : request.Settled state applied base fs after)
    (target : second.target = request.target) (quiet : second.DecidesQuietly probe')
    (readable :
      Circumstances.reading (request.target.join Legacy.privacyConfig.path) 0o644 = none)
    (found : second.state after = .ok state)
    (decided : (second.decidePostupAlias probe' after).result = .ok applied.postupAlias) :
    (second.apply .standard probe' after).result = .ok applied.again ∧
      ∀ l, (second.apply .standard probe' after).files.get? l = after.get? l := by
  obtain ⟨g, -, rendered, installed, hooks, legacy, allowed⟩ := settled
  obtain ⟨allowed, allowed'⟩ := List.forall_mem_append.1 allowed
  -- the files are rendered into their places once more
  obtain ⟨ok, c, g'⟩ := TargetWrite.allSucceed_of_isInPlace g plain_of_writes allowed rendered
  have rendering := Renderer.standard_follows request.target state applied.postupAlias after
  obtain ⟨_, ok⟩ := rendering.result.2 ok
  rw [← rendering.files] at c g'
  obtain ⟨result, files⟩ := apply_of_decided found decided
  rw [quiet.files] at result files
  rw [← target] at ok
  obtain ⟨reconciled, events, entries, reconciles, installs, -⟩ :=
    carryOut_of_ok ok
  rw [target] at reconciles installs
  -- the artifacts rest
  have rests : List.Forall₂ (fun artifact entry => ∃ outcome,
      entry = (artifact.path, outcome) ∧ artifact.RestsAs request.target
        (Renderer.standard ⟨request.target, state, applied.postupAlias⟩ after).files outcome)
      Legacy.known applied.again.legacy := by
    refine List.forall₂_map_right_iff.2 ?_
    refine ((List.forall₂_and_left _ _).2 ⟨fun _ mem => mem, legacy⟩).imp ?_
    rintro artifact _ ⟨mem, outcome, rfl, -, rests⟩
    refine ⟨outcome.map .again, rfl, ?_⟩
    rw [Legacy.Artifact.RestsAs,
      Legacy.inspect_congr g g' (plain_of_known artifact mem) fun way _ => c.get?_eq _]
    exact rests (lasting_of_known readable artifact mem)
  obtain ⟨rfl, rfl⟩ := reconciles.of_restsAs g' plain_of_known rests
  -- and the hooks are in their places
  obtain ⟨ok', c', -⟩ := TargetWrite.allSucceed_of_isInPlace g' plain_of_asWrite allowed'
    fun write mem => (installed write mem).keeps c (by simp)
  have installing := Hook.installAll_follows request.target Hook.all
    (Renderer.standard ⟨request.target, state, applied.postupAlias⟩ after).files
  obtain ⟨paths, ok'⟩ := installing.result.2 ok'
  rw [← installing.files] at c'
  have shows := installs paths ok'
  rw [paths_of_installAll plain_of_hooks ok', ← hooks] at shows
  refine ⟨result.trans shows.result, fun l => ?_⟩
  rw [files, shows.files, c'.get?_eq, c.get?_eq]

/-- A request finds its state again unless its sources are among the files that a run touches. -/
lemma Settled.state_eq {state' : Network.State}
    (settled : request.Settled state' applied base fs after)
    (root : fs.resolve request.target = .ok base) (found : request.state fs = .ok state)
    (apart : ∀ path ∈ request.stateFile.toList ++ request.configFile.toList, ∀ goal,
      fs.resolve path = .ok goal → goal ∉ targetFiles.map (base ++ ·.named)) :
    request.state after = .ok state := by
  obtain ⟨_, check, resolved⟩ := Yaml.bind_eq_ok_iff.1 found
  obtain ⟨given, sourced, directory⟩ := check_eq_ok_iff.1 check
  have stays : after.find request.target = .ok .directory := by
    refine settled.changes.find_eq (FileSystem.isDirectory_iff.1 directory) fun goal goes mem => ?_
    -- the target is above all its files
    cases root.symm.trans goes
    obtain ⟨path, hp, e⟩ := List.mem_map.1 mem
    exact (targetFiles_isPlain path hp).spelled.1 (List.append_right_eq_self.1 e)
  refine Yaml.bind_eq_ok_iff.2 ⟨(), ?_, ?_⟩
  · exact check_eq_ok_iff.2 ⟨given, sourced, FileSystem.isDirectory_iff.2 stays⟩
  · refine Network.resolve_of_readText ?_ resolved
    exact fun path mem text read => settled.changes.readText_eq read (apart path mem)

/-- Running twice is running once. After a run that ends well over a target without links, a second
run over it that finds the same state and decides on aliases in the same way ends well too and
changes nothing. It reports the same, but what was removed is now absent, and what was annotated is
preserved. Whatever else the system refuses, it has to allow the annotation to be written and read. -/
theorem apply_again (tree : fs.IsTree) (root : fs.resolve request.target = .ok base)
    (noLinks : fs.LinkFree base) (quiet : request.DecidesQuietly probe)
    (annotating : Circumstances.writing
      (request.target.join (.ofString "etc/sysctl.d/10-ipv6-privacy.conf")) = .none)
    (readable : Circumstances.reading
      (request.target.join (.ofString "etc/sysctl.d/10-ipv6-privacy.conf")) 0o644 = none)
    (done : (request.apply .standard probe fs).result = .ok applied)
    (left : (request.apply .standard probe fs).files = after)
    (target : second.target = request.target) (quiet' : second.DecidesQuietly probe')
    (sameState : second.state after = request.state fs)
    (sameAlias : (second.decidePostupAlias probe' after).result = .ok applied.postupAlias) :
    (second.apply .standard probe' after).result = .ok applied.again ∧
      ∀ l, (second.apply .standard probe' after).files.get? l = after.get? l := by
  obtain ⟨state, found, settled⟩ := settled_of_apply tree root noLinks quiet annotating done
  rw [left] at settled
  exact settled.again target quiet' readable (sameState.trans found) sameAlias

end

/-- A second run over the fresh target ends well and changes nothing. -/
theorem apply_again_freshTarget :
    ∃ applied after,
      ((freshRequest (some false)).apply .standard Package.statusProbe freshTarget).result =
        .ok applied ∧
      ((freshRequest (some false)).apply .standard Package.statusProbe freshTarget).files = after ∧
      (freshRequest (some false)).state after = (freshRequest (some false)).state freshTarget ∧
      ((freshRequest (some false)).decidePostupAlias Package.statusProbe after).result =
        .ok applied.postupAlias ∧
      ((freshRequest (some false)).apply .standard Package.statusProbe after).result =
        .ok applied.again ∧
      ∀ l, ((freshRequest (some false)).apply .standard Package.statusProbe after).files.get? l =
        after.get? l := by
  have quiet : (freshRequest (some false)).DecidesQuietly Package.statusProbe :=
    .inr Package.statusProbe_onlyLooks
  have found := state_freshRequest (some false)
  obtain ⟨applied, done⟩ := apply_of_isReady freshTarget_isTree resolve_freshTarget
    freshTarget_linkFree quiet (fun _ _ => rfl) found freshTarget_isReady
  obtain ⟨_, _, _, _, -, decided, -⟩ := apply_eq_ok done
  obtain ⟨_, -, settled⟩ :=
    settled_of_apply freshTarget_isTree resolve_freshTarget freshTarget_linkFree quiet rfl done
  have apart : Location.ofStrings ["config"] ∉
      targetFiles.map (Location.ofStrings ["target"] ++ ·.named) := by
    decide +kernel
  have located : freshTarget.resolve (.ofString "config") = .ok (.ofStrings ["config"]) := by
    decide +kernel
  have sameState : (freshRequest (some false)).state
      ((freshRequest (some false)).apply .standard Package.statusProbe freshTarget).files =
        (freshRequest (some false)).state freshTarget := by
    refine (settled.state_eq resolve_freshTarget found ?_).trans found.symm
    intro path mem goal goes
    cases List.mem_singleton.1 mem
    cases located.symm.trans goes
    exact apart
  have given (files : FileSystem) :
      ((freshRequest (some false)).decidePostupAlias Package.statusProbe files).result = .ok false :=
    rfl
  have sameAlias : ((freshRequest (some false)).decidePostupAlias Package.statusProbe
      ((freshRequest (some false)).apply .standard Package.statusProbe freshTarget).files).result =
        .ok applied.postupAlias := by
    rw [given, ← decided, given]
  exact ⟨applied, _, done, rfl, sameState, sameAlias,
    apply_again freshTarget_isTree resolve_freshTarget freshTarget_linkFree quiet rfl rfl done rfl
      rfl quiet sameState sameAlias⟩

end Request
end TargetNet
