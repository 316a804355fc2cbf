import Mathlib.Data.List.Basic
import Mathlib.Tactic.Common
import TargetNet.Legacy.Known
import TargetNet.Proofs.FileSystem.Leads
import TargetNet.Proofs.Legacy.Reconcile

/-!
# Which entries are removed

The path of an artifact is accepted for where it leads in the end, but what is removed is the entry
that it names, and this may be a link. So the entry of a directory outside the target is touched if
it is a link that leads back inside; otherwise it is only if the path has no canonical location
(`changed_outside_is_missed`).
-/

namespace TargetNet.Legacy

/-- How a path that names the entry at a location outside can be accepted all the same. -/
inductive IsMissed (fs : FileSystem) (path : Path) (base l : Location) : Prop where
  /-- The entry is a link that leads back inside. -/
  | leadsBack {held location} :
    fs.get? l = some (.link held) →
    fs.canonical path = .ok location →
    base <+: location →
    IsMissed fs path base l
  /-- The path from the root is too long, or one on the way to it. -/
  | unknown {fault} :
    fs.canonical path = .error fault →
    IsMissed fs path base l

variable {fs : FileSystem} {target path : Path} {base : Location} {artifact : Artifact}

/-- An accepted path with a canonical location has it inside the target. -/
lemma prefix_of_canonical {relative : Path} {location : Location}
    (root : fs.canonical target = .ok base) (h : targetPathIn fs target relative = .ok path)
    (found : fs.canonical path = .ok location) : base <+: location := by
  obtain ⟨-, -, -, -, -, inside⟩ := targetPathIn_eq_ok h
  rw [FileSystem.escapes, root, found] at inside
  simpa using inside

/-- The target of a path that is accepted and found is a directory. -/
lemma directory_of_resolve {relative : Path} {location : Location}
    (root : fs.canonical target = .ok base) (h : targetPathIn fs target relative = .ok path)
    (found : fs.resolve path = .ok location) : fs.get? base = some .directory := by
  obtain ⟨names, ne, proper, -, rfl, -⟩ := targetPathIn_eq_ok h
  obtain ⟨nonempty, n, -, w⟩ := FileSystem.walks_of_canonical root
  obtain ⟨-, m, -, w'⟩ := FileSystem.walks_of_resolve found
  have relative := Path.isAbsolute_ofNames proper
  rw [Path.named_join relative, Path.named_ofNames ne proper, FileSystem.startOf,
    Path.isAbsolute_join relative nonempty] at w'
  obtain ⟨i, j, mid, -, first, rest⟩ := w'.split
  obtain rfl := first.end_unique w
  obtain ⟨name, names, rfl⟩ := List.exists_cons_of_ne_nil ne
  exact rest.isDirectory_of_cons

section

variable [Circumstances]

/-- An entry outside that the path of a shipped file names is missed by the check. -/
lemma isMissed_of_shipped {directory : Location} {name : Name}
    (root : fs.canonical target = .ok base)
    (h : targetPathIn fs target artifact.path = .ok path) (shipped : artifact.IsShipped fs path)
    (located : fs.locate path = .ok (directory, some name, false))
    (outside : ¬ base <+: directory) : IsMissed fs path base (directory ++ [name]) := by
  obtain ⟨directory', name', location, located', found, leaf⟩ := isLeaf_of_shipped h shipped
  cases located.symm.trans located'
  cases canonical : fs.canonical path with
  | error fault => exact .unknown canonical
  | ok location' =>
    obtain ⟨-, _, -, w⟩ := FileSystem.walks_of_canonical canonical
    obtain ⟨-, _, -, w'⟩ := FileSystem.walks_of_resolve found
    obtain rfl := w.end_unique w'
    have inside := prefix_of_canonical root h canonical
    rcases leaf.entry with ⟨rfl, content, mode, file⟩ | ⟨held, n, link, -⟩
    · -- a file is inside with its directory, since the target is a directory and no file
      exfalso
      rcases List.prefix_concat_iff.1 inside with same | inner
      · have := directory_of_resolve root h found
        rw [same, file] at this
        cases this
      · exact outside inner
    · exact .leadsBack link canonical inside

/-- What reconciling changes is the entry that the path of a shipped file names. -/
lemma entry_of_changed {l : Location}
    (h : (reconcile target artifact fs).files.get? l ≠ fs.get? l) :
    ∃ path directory name, targetPathIn fs target artifact.path = .ok path ∧
      Circumstances.removing path = none ∧ artifact.IsShipped fs path ∧
      fs.locate path = .ok (directory, some name, false) ∧ l = directory ++ [name] := by
  cases result : (reconcile target artifact fs).result with
  | error error =>
    rw [reconcile_error result] at h
    exact absurd rfl h
  | ok outcome =>
    cases accepted : targetPathIn fs target artifact.path with
    | error reason =>
      rw [reconcile_of_refused accepted] at h
      exact absurd rfl h
    | ok path =>
      cases found : artifact.left (artifact.inspect fs path) with
      | some report =>
        rw [reconcile_of_left accepted found] at h
        exact absurd rfl h
      | none =>
        have asShipped := Artifact.left_eq_none_iff.1 found
        have shipped := inspect_eq_asShipped_iff.1 asShipped
        cases removal : remains fs path with
        | error fault =>
          rw [reconcile_of_stuck accepted asShipped removal] at h
          exact absurd rfl h
        | ok rest =>
          obtain ⟨directory, name, left, -, located, -, view, -⟩ :=
            reconcile_of_shipped accepted shipped removal
          refine ⟨path, directory, name, rfl, (remains_eq_ok_iff.1 removal).1, shipped, located, ?_⟩
          by_contra other
          rw [view, if_neg other] at h
          exact h rfl

/-- In all circumstances, reconciling touches an entry of a directory outside only if the check of the
path misses it: the entry is a link that leads back inside, or the path has no canonical location. Such
a link is taken away, wherever its directory is, unless its removal is refused, and the annotation takes
its place. -/
theorem changed_outside_is_missed (root : fs.canonical target = .ok base) (artifact : Artifact) :
    (∀ l, ¬ base <+: l.dropLast →
      (reconcile target artifact fs).files.get? l ≠ fs.get? l →
      ∃ path directory name, targetPathIn fs target artifact.path = .ok path ∧
        Circumstances.removing path = none ∧ artifact.IsShipped fs path ∧
        fs.locate path = .ok (directory, some name, false) ∧
        l = directory ++ [name] ∧ IsMissed fs path base l) ∧
    ∀ path directory name held, targetPathIn fs target artifact.path = .ok path →
      Circumstances.removing path = none →
      artifact.IsShipped fs path → fs.locate path = .ok (directory, some name, false) →
      fs.get? (directory ++ [name]) = some (.link held) →
      (reconcile target artifact fs).files.get? (directory ++ [name]) = none ∨
        ∃ text, artifact.policy = .annotate text ∧
          (reconcile target artifact fs).files.get? (directory ++ [name]) =
            some (.file text.toUTF8 0o644) := by
  refine ⟨?_, ?_⟩
  · intro l outside changed
    obtain ⟨path, directory, name, accepted, free, shipped, located, rfl⟩ :=
      entry_of_changed changed
    rw [List.dropLast_concat] at outside
    exact ⟨path, directory, name, accepted, free, shipped, located, rfl,
      isMissed_of_shipped root accepted shipped located outside⟩
  · intro path directory name held accepted free shipped located link
    obtain ⟨directory', name', location, located', -, leaf⟩ := isLeaf_of_shipped accepted shipped
    cases located.symm.trans located'
    have removed : remains fs path = .ok (fs.erase (directory ++ [name])) :=
      remains_eq_ok_iff.2 ⟨free, FileSystem.remove_of_isLeaf located leaf⟩
    obtain ⟨directory', name', left, events, located', -, view, -, remainder⟩ :=
      reconcile_of_shipped accepted shipped removed
    cases located.symm.trans located'
    rw [view, if_pos rfl]
    exact remainder.left_eq

end

/-- The settings that are shipped. -/
def shippedPrivacy : String :=
  "net.ipv6.conf.all.use_tempaddr = 2\nnet.ipv6.conf.default.use_tempaddr = 2\n"

/-- A target with a link to a directory outside, where a link leads back to a file of the target. -/
def roundabout : FileSystem where
  entries :=
    [(.ofStrings ["target"], .directory), (.ofStrings ["outside"], .directory),
      (.ofStrings ["target", "etc"], .directory),
      (.ofStrings ["target", "etc", "sysctl.d"], .link (.ofString "../../outside")),
      (.ofStrings ["outside", "10-ipv6-privacy.conf"], .link (.ofString "../target/real")),
      (.ofStrings ["target", "real"], .file shippedPrivacy.toUTF8 0o644)]
  current := []

/-- A link outside that leads back into the target is not there any more. -/
theorem changed_outside_is_missed_roundabout :
    roundabout.canonical (.ofString "target") = .ok (.ofStrings ["target"]) ∧
      ¬ Location.ofStrings ["target"] <+: Location.ofStrings ["outside"] ∧
      roundabout.get? (.ofStrings ["outside", "10-ipv6-privacy.conf"]) =
        some (.link (.ofString "../target/real")) ∧
      (reconcile (.ofString "target") privacyConfig roundabout).files.get?
          (.ofStrings ["outside", "10-ipv6-privacy.conf"]) ≠
        some (.link (.ofString "../target/real")) ∧
      IsMissed roundabout (.ofString "target/etc/sysctl.d/10-ipv6-privacy.conf")
        (.ofStrings ["target"]) (.ofStrings ["outside", "10-ipv6-privacy.conf"]) := by
  have root : roundabout.canonical (.ofString "target") = .ok (.ofStrings ["target"]) := by
    decide +kernel
  have outside : ¬ Location.ofStrings ["target"] <+: Location.ofStrings ["outside"] := by
    decide +kernel
  have link : roundabout.get? (.ofStrings ["outside", "10-ipv6-privacy.conf"]) =
      some (.link (.ofString "../target/real")) := by
    decide +kernel
  have accepted : targetPathIn roundabout (.ofString "target") privacyConfig.path =
      .ok (.ofString "target/etc/sysctl.d/10-ipv6-privacy.conf") := by
    decide +kernel
  have located : roundabout.locate (.ofString "target/etc/sysctl.d/10-ipv6-privacy.conf") =
      .ok (.ofStrings ["outside"], some (Text.Utf8.encode "10-ipv6-privacy.conf"), false) := by
    decide +kernel
  have found : roundabout.resolve (.ofString "target/etc/sysctl.d/10-ipv6-privacy.conf") =
      .ok (.ofStrings ["target", "real"]) := by
    decide +kernel
  have file : roundabout.get? (.ofStrings ["target", "real"]) =
      some (.file shippedPrivacy.toUTF8 0o644) := by
    decide +kernel
  have shipped : privacyConfig.IsShipped roundabout
      (.ofString "target/etc/sysctl.d/10-ipv6-privacy.conf") :=
    ⟨shippedPrivacy, ⟨_, _, _, found, file, rfl, Text.Utf8.decode_toUTF8 _⟩, by decide +kernel⟩
  obtain ⟨missed, touched⟩ := changed_outside_is_missed root privacyConfig
  have changed : (reconcile (.ofString "target") privacyConfig roundabout).files.get?
      (.ofStrings ["outside", "10-ipv6-privacy.conf"]) ≠
        some (.link (.ofString "../target/real")) := by
    rcases touched _ _ _ _ accepted rfl shipped located link with gone | ⟨text, -, annotated⟩
    · exact fun same => by cases gone.symm.trans same
    · exact fun same => by cases annotated.symm.trans same
  obtain ⟨path, directory, name, accepted', -, -, -, -, isMissed⟩ :=
    missed (.ofStrings ["outside", "10-ipv6-privacy.conf"]) outside (by rwa [link])
  cases accepted.symm.trans accepted'
  exact ⟨root, outside, link, changed, isMissed⟩

end TargetNet.Legacy
