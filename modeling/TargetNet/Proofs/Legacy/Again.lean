import Mathlib.Data.List.Basic
import Mathlib.Tactic.Common
import TargetNet.Proofs.FileSystem.Alike
import TargetNet.Proofs.Legacy.LinkFree

/-!
# Reconciling again

Reconciling a second time changes nothing more, links or not: `reconcile_again`. A run that touches
nothing comes to the same end again, since how it ends is settled by what can be looked up
(`reconcile_result`). A run that removes a shipped file leaves the place `Cleared`: its path still
names the same entry, which is gone or holds the annotation. A file that is gone is absent, and an
annotation stays, is refused, or is taken for the shipped file and written once more.
-/

namespace TargetNet.Legacy

variable {target path : Path} {artifact : Artifact} {fs fs' after after' : FileSystem}
  {directory : Location} {name : Name} {left : Option Entry}

/-! ## How a run ends -/

/-- Nothing is called removed that is left in place. -/
lemma left_ne_removed {inspection : Inspection} {outcome : Outcome} {detail : String}
    (h : artifact.left inspection = some (outcome, detail)) : outcome ≠ .removed := by
  rintro rfl
  cases inspection <;> cases h

variable [Circumstances]

/-- A shipped file can be removed, unless this is refused. -/
lemma exists_remains_of_shipped (h : targetPathIn fs target artifact.path = .ok path)
    (shipped : artifact.IsShipped fs path) (free : Circumstances.removing path = none) :
    ∃ rest, remains fs path = .ok rest := by
  obtain ⟨directory, name, location, located, -, leaf⟩ := isLeaf_of_shipped h shipped
  exact ⟨_, remains_eq_ok_iff.2 ⟨free, FileSystem.remove_of_isLeaf located leaf⟩⟩

/-- How a run ends is settled by its path, by what is found there, and by whether removing is
refused. -/
lemma reconcile_result (target : Path) (artifact : Artifact) (fs : FileSystem) :
    (reconcile target artifact fs).result =
      match targetPathIn fs target artifact.path with
      | .error reason => .error (.path reason)
      | .ok path =>
        match artifact.left (artifact.inspect fs path), Circumstances.removing path with
        | some (outcome, _), _ => .ok outcome
        | none, some fault => .error (.file .remove path fault)
        | none, none => .ok artifact.policy.outcome := by
  cases accepted : targetPathIn fs target artifact.path with
  | error reason => rw [reconcile_of_refused accepted]
  | ok path =>
    cases found : artifact.left (artifact.inspect fs path) with
    | some report =>
      rw [reconcile_of_left accepted found]
      dsimp only
      rw [found]
    | none =>
      have asShipped := Artifact.left_eq_none_iff.1 found
      dsimp only
      rw [found]
      cases refused : Circumstances.removing path with
      | some fault => rw [reconcile_of_stuck accepted asShipped (by rw [remains, refused])]
      | none =>
        have shipped := inspect_eq_asShipped_iff.1 asShipped
        obtain ⟨rest, removed⟩ := exists_remains_of_shipped accepted shipped refused
        obtain ⟨-, -, -, -, -, result, -⟩ :=
          reconcile_of_shipped accepted shipped removed
        exact result

/-- The same is found in file systems that show the same. -/
lemma inspect_of_alike (alike : fs.Alike fs') (artifact : Artifact) (path : Path) :
    artifact.inspect fs' path = artifact.inspect fs path := by
  rw [Artifact.inspect, Artifact.inspect, FileSystem.exists?, FileSystem.exists?, alike.resolve,
    alike.read]

/-- Runs over file systems that show the same end in the same way. -/
lemma result_of_alike (alike : fs.Alike fs') :
    (reconcile target artifact fs').result =
      (reconcile target artifact fs).result := by
  rw [reconcile_result, reconcile_result, alike.targetPathIn]
  simp only [inspect_of_alike alike]

/-! ## What a run leaves -/

/-- What is left where a shipped file was removed: the path names the same entry with the file there
and without it, and this entry alone has changed. -/
structure Cleared (policy : Policy) (path : Path)
    (fs after : FileSystem) (directory : Location) (name : Name) (left : Option Entry) : Prop where
  short : name.length ≤ Path.maxName
  located : fs.locate path = .ok (directory, some name, false)
  kept : (fs.erase (directory ++ [name])).locate path = .ok (directory, some name, false)
  current : after.current = fs.current
  get? : ∀ l, after.get? l = if l = directory ++ [name] then left else fs.get? l
  remainder : ∃ events,
    Remainder path (fs.erase (directory ++ [name])) policy left events

/-- The path names the same entry afterwards. -/
lemma Cleared.located_after {policy : Policy}
    (c : Cleared policy path fs after directory name left) :
    after.locate path = .ok (directory, some name, false) := by
  refine FileSystem.locate_of_keeps c.kept c.current fun l entry there => ?_
  have ne : l ≠ directory ++ [name] := by
    rintro rfl
    rw [fs.get?_erase_self (by simp)] at there
    cases there
  rwa [c.get?, if_neg ne, ← fs.get?_erase_of_ne ne]

/-- A run leaves the files alone and reports no removal, or it clears the place of a shipped file. -/
lemma reconcile_cases (target : Path) (artifact : Artifact) (fs : FileSystem) :
    (reconcile target artifact fs).files = fs ∧
        (reconcile target artifact fs).result ≠ .ok .removed ∨
      ∃ path directory name left, targetPathIn fs target artifact.path = .ok path ∧
        (reconcile target artifact fs).result =
          .ok artifact.policy.outcome ∧
        Cleared artifact.policy path fs
          (reconcile target artifact fs).files directory name left := by
  cases accepted : targetPathIn fs target artifact.path with
  | error reason =>
    rw [reconcile_of_refused accepted]
    exact .inl ⟨rfl, by rintro ⟨⟩⟩
  | ok path =>
    cases found : artifact.left (artifact.inspect fs path) with
    | some report =>
      rw [reconcile_of_left accepted found]
      exact .inl ⟨rfl, fun removed => left_ne_removed found (Except.ok.inj removed)⟩
    | none =>
      have inspection := Artifact.left_eq_none_iff.1 found
      cases removal : remains fs path with
      | error fault =>
        rw [reconcile_of_stuck accepted inspection removal]
        exact .inl ⟨rfl, by rintro ⟨⟩⟩
      | ok rest =>
        have shipped := inspect_eq_asShipped_iff.1 inspection
        obtain ⟨_, _, _, located', -, leaf⟩ := isLeaf_of_shipped accepted shipped
        obtain ⟨directory, name, located, rfl, kept⟩ := remains_of_shipped accepted shipped removal
        cases located.symm.trans located'
        obtain ⟨_, _, left, events, located', result, view, -, remainder⟩ :=
          reconcile_of_shipped accepted shipped removal
        cases located.symm.trans located'
        exact .inr ⟨path, _, _, left, rfl, result, {
          short := leaf.isName.2.2
          located := located
          kept := kept
          current := reconcile_current _ _ _
          get? := view
          remainder := ⟨events, remainder⟩ }⟩

/-- Once a shipped file is gone, its path is accepted as before and leads nowhere. -/
lemma Cleared.isAbsent {policy : Policy}
    (c : Cleared policy path fs after directory name none)
    (accepted : targetPathIn fs target artifact.path = .ok path) :
    targetPathIn after target artifact.path = .ok path ∧ IsAbsent after path := by
  have gone : after.get? (directory ++ [name]) = none := (c.get? _).trans (if_pos rfl)
  -- without a canonical location, the path cannot be found to lead out
  have inside : after.escapes target path = false := by
    rw [FileSystem.escapes]
    split
    · rename_i location _ found
      exact absurd found (FileSystem.canonical_of_missing c.located_after gone location)
    · rfl
  obtain ⟨below, relative, join, -⟩ := targetPathIn_eq_ok_iff.1 accepted
  exact ⟨targetPathIn_eq_ok_iff.2 ⟨below, relative, join, inside⟩,
    FileSystem.resolve_of_missing c.located_after c.short gone⟩

/-- What was removed without an annotation is gone. -/
lemma Cleared.eq_none_of_removed (c : Cleared artifact.policy path fs after directory name left)
    (removed : artifact.policy.outcome = .removed) : left = none := by
  obtain ⟨events, remainder⟩ := c.remainder
  cases policy : artifact.policy with
  | delete =>
    rw [policy] at remainder
    cases remainder
    rfl
  | annotate text =>
    rw [policy] at removed
    cases removed

/-- An annotation that is taken for the shipped file is written once more. -/
lemma Cleared.again {policy : Policy} {entry : Entry} {directory' : Location} {name' : Name}
    {left' : Option Entry}
    (c : Cleared policy path fs after directory name (some entry))
    (c' : Cleared policy path after after' directory' name' left') :
    after.Alike after' := by
  cases c.located_after.symm.trans c'.located
  have same : left' = some entry := by
    obtain ⟨_, first⟩ := c.remainder
    obtain ⟨_, second⟩ := c'.remainder
    cases first with
    | annotated ok =>
      cases second with
      | annotated => rfl
      | bare failed =>
        -- no stage was disturbed the first time, so none is now
        have calm := calm_of_writeFile ok
        have gone := after.get?_erase_self (show directory ++ [name] ≠ [] by simp)
        cases (writeFile_of_locate calm c'.kept c'.short (by rw [gone]; rintro ⟨⟩)).symm.trans failed
  refine ⟨c'.current, fun l => ?_⟩
  rw [c'.get?, same]
  split
  · rename_i here
    rw [c.get?, if_pos here]
  · rfl

/-! ## In other circumstances -/

/-- A file that is found to be the user's is not taken for the shipped one in other circumstances. -/
lemma not_isShipped_of_isChanged (changed : artifact.IsChanged fs path) (others : Circumstances) :
    ¬ @Artifact.IsShipped others artifact fs path := by
  obtain ⟨text, ⟨location, content, mode, found, file, -, decoded⟩, lines⟩ := changed
  rintro ⟨text', ⟨location', content', mode', found', file', -, decoded'⟩, lines'⟩
  cases found.symm.trans found'
  cases file.symm.trans file'
  cases decoded.symm.trans decoded'
  exact lines lines'

/-- A run that does not end in a removal leaves the files alone. -/
lemma files_of_result {outcome : Outcome}
    (result : (reconcile target artifact fs).result = .ok outcome)
    (other : outcome ≠ artifact.policy.outcome) : (reconcile target artifact fs).files = fs := by
  rcases reconcile_cases target artifact fs with ⟨same, -⟩ | ⟨_, _, _, _, -, removed, -⟩
  · exact same
  · exact absurd (Except.ok.inj (result.symm.trans removed)) other

/-- After a run that removed an artifact, or found none, there is none. -/
lemma isAbsent_of_result
    (gone : (reconcile target artifact fs).result = .ok .removed ∨
      (reconcile target artifact fs).result = .ok .absent) :
    ∃ path, targetPathIn (reconcile target artifact fs).files target artifact.path = .ok path ∧
      IsAbsent (reconcile target artifact fs).files path := by
  rcases gone with result | result
  · rcases reconcile_cases target artifact fs with
      ⟨-, kept⟩ | ⟨path, directory, name, left, accepted, removed, cleared⟩
    · exact absurd result kept
    · obtain rfl := cleared.eq_none_of_removed (Except.ok.inj (removed.symm.trans result))
      exact ⟨path, cleared.isAbsent accepted⟩
  · rw [files_of_result result (by cases artifact.policy <;> nofun)]
    cases accepted : targetPathIn fs target artifact.path with
    | error reason =>
      rw [reconcile_of_refused accepted] at result
      cases result
    | ok path =>
      obtain ⟨-, -, absent, -⟩ :=
        (reconcile_keeps_user_content target artifact fs).2 path accepted _ rfl
      exact ⟨path, rfl, absent.1 result⟩

/-- After a run that found a file to be the user's, it still is. -/
lemma isChanged_of_result (result : (reconcile target artifact fs).result = .ok .preserved) :
    (reconcile target artifact fs).files = fs ∧
      ∃ path, targetPathIn fs target artifact.path = .ok path ∧ artifact.IsChanged fs path := by
  refine ⟨files_of_result result (by cases artifact.policy <;> nofun), ?_⟩
  cases accepted : targetPathIn fs target artifact.path with
  | error reason =>
    rw [reconcile_of_refused accepted] at result
    cases result
  | ok path =>
    obtain ⟨-, -, -, -, preserved, -⟩ :=
      (reconcile_keeps_user_content target artifact fs).2 path accepted _ rfl
    exact ⟨path, rfl, preserved.1 result⟩

/-- Reconciling again in the same circumstances changes nothing: whatever the first run did, and even
if the annotation it left is taken for what was shipped, every location shows the same after the second
run. What was removed is absent then, and a run that changed nothing ends in the same way again. In
other circumstances, what was removed or absent is absent still, and what was found to be the user's is
left alone; only what could not be read or removed before may be removed now. -/
theorem reconcile_again (target : Path) (artifact : Artifact) (fs : FileSystem) :
    let first := reconcile target artifact fs
    let second := reconcile target artifact first.files
    first.files.Alike second.files ∧
      (first.result = .ok .removed → second.result = .ok .absent) ∧
      (fs.Alike first.files → second.result = first.result) ∧
      (first.result = .ok .removed ∨ first.result = .ok .absent → ∀ others : Circumstances,
        (@reconcile others target artifact first.files).result = .ok .absent ∧
          (@reconcile others target artifact first.files).files = first.files) ∧
      (first.result = .ok .preserved → ∀ others : Circumstances,
        (@reconcile others target artifact first.files).files = first.files) := by
  intro first second
  refine ⟨?_, fun removed => ?_, result_of_alike, fun gone => ?_, fun preserved => ?_⟩
  · rcases reconcile_cases target artifact fs with
      ⟨same, -⟩ | ⟨path, directory, name, left, accepted, -, cleared⟩
    · rw [show second = first from congrArg (reconcile target artifact) same]
      exact .refl _
    · cases left with
      | none =>
        obtain ⟨accepted', absent⟩ := cleared.isAbsent accepted
        have ends : second = _ := reconcile_of_absent accepted' absent
        rw [ends]
        exact .refl _
      | some entry =>
        rcases reconcile_cases target artifact first.files with
          ⟨same, -⟩ | ⟨path', directory', name', left', accepted', -, cleared'⟩
        · rw [show second.files = first.files from same]
          exact .refl _
        · obtain rfl := targetPathIn_unique accepted accepted'
          exact cleared.again cleared'
  · obtain ⟨path, accepted, absent⟩ := isAbsent_of_result (.inl removed)
    exact congrArg Done.result (reconcile_of_absent accepted absent)
  · obtain ⟨path, accepted, absent⟩ := isAbsent_of_result gone
    intro others
    rw [reconcile_of_absent accepted absent]
    exact ⟨rfl, rfl⟩
  · obtain ⟨same, path, accepted, changed⟩ := isChanged_of_result preserved
    have other := not_isShipped_of_isChanged changed
    rw [show first.files = fs from same]
    intro others
    exact reconcile_of_not_shipped accepted (other others)

end TargetNet.Legacy
