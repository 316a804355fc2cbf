import Mathlib.Data.List.Basic
import Mathlib.Tactic.Common
import TargetNet.Proofs.TargetWrite

/-!
# Which writes stay inside a target

A write whose path leads out of the target and is there already is refused. For all others it is the
foothold of the path that decides: a list of writes changes nothing outside the target as long as
every foothold is inside it (`filesAfter_confined`), and a write that goes through with its foothold
outside puts its file outside (`TargetWrite.run_lands`).
-/

namespace TargetNet

namespace TargetWrite

variable {fs : FileSystem} {target : Path} {base : Location} {write : TargetWrite}

/-- Below a target that comes to a stop, nothing is written. -/
lemma run_of_stuck [Circumstances]
    (stuck : fs.IsStuck (FileSystem.startOf target fs.current) target.named)
    (nonempty : target.bytes ≠ []) :
    (∃ error, (write.run target fs).result = .error error) ∧
      ∀ l, (write.run target fs).files.get? l = fs.get? l := by
  cases accepted : targetPathIn fs target write.path with
  | error reason =>
    rw [run_of_refused write accepted]
    exact ⟨⟨_, rfl⟩, fun _ => rfl⟩
  | ok path =>
    obtain ⟨names, ne, proper, -, rfl, -⟩ := targetPathIn_eq_ok accepted
    obtain ⟨init, last, rfl⟩ : ∃ init last, names = init ++ [last] :=
      ⟨_, _, (List.dropLast_append_getLast ne).symm⟩
    have relative := Path.isAbsolute_ofNames proper
    have named : (target.join (.ofNames (init ++ [last]))).named =
        target.named ++ init ++ [last] := by
      rw [Path.named_join relative, Path.named_ofNames ne proper, List.append_assoc]
    have start : FileSystem.startOf (target.join (.ofNames (init ++ [last]))) fs.current =
        FileSystem.startOf target fs.current := by
      rw [FileSystem.startOf, FileSystem.startOf, Path.isAbsolute_join relative nonempty]
    obtain ⟨parent, dots, hp, beginning, pieces, nothing⟩ := Path.parent?_eq_some
      (by rw [named, List.getLast?_concat]) (proper last (by simp))
    -- what is stuck on the way to the target is so on the way to the file
    have stuck' := stuck.append init
    rw [named, List.dropLast_concat] at pieces
    have none : (fs.makeDirectories parent).1 = fs := by
      refine FileSystem.makeAll_of_stuck ?_ _
      rw [pieces] at stuck'
      have := stuck'.of_dots nothing
      rwa [← start, FileSystem.startOf, ← beginning.isAbsolute] at this
    cases hw : fs.write ⟨_, parent, write.content, write.mode⟩ with
    | mk after result =>
      obtain ⟨ends, left⟩ := writeFile_of_write hp hw
      rw [run_of_accepted write accepted, ends, left]
      rcases FileSystem.write_spec hw with
        ⟨rfl, made, directory, name, hm, written⟩ | ⟨⟨fault, rfl⟩, view⟩
      · exfalso
        rw [hm] at none
        obtain rfl := none
        obtain ⟨-, arrives, hd, -⟩ := FileSystem.locate_eq_ok_iff.1 written.locate
        dsimp only at arrives
        rw [named, List.dropLast_concat, start] at arrives
        rcases stuck' with h | ⟨l, h, other⟩
        · rw [arrives] at h
          cases h
        · rw [arrives] at h
          cases h
          exact other hd
      · refine ⟨⟨_, rfl⟩, ?_⟩
        rwa [none, or_self] at view

/-- The target leads to a directory, or every write below it comes to a stop. -/
def IsAnchored (fs : FileSystem) (target : Path) (base : Location) : Prop :=
  fs.IsTree ∧ fs.Leads target base ∨
    target.bytes ≠ [] ∧ fs.IsStuck (FileSystem.startOf target fs.current) target.named

/-- A file that is written leaves the target where it was, or takes the place of a link on the way
to it. -/
lemma isAnchored_of_written {made after : FileSystem} {write : FileWrite} {directory : Location}
    {name : Name} (tree : made.IsTree) (leads : made.Leads target base)
    (written : FileSystem.Written made after write directory name) :
    IsAnchored after target base := by
  obtain ⟨nonempty, ⟨n, le, w⟩, hd⟩ := leads
  have file := written.file
  have keeps (l : Location) (entry : Entry) (ne : l ≠ directory ++ [name])
      (h : made.get? l = some entry) : after.get? l = some entry := by
    rw [written.get?, if_neg ne, h]
  have stays : after.get? base = some .directory :=
    keeps base _ (fun e => written.notDirectory (e ▸ hd)) hd
  have walks := w.replaced hd written.notDirectory file keeps le
  rw [← written.current] at walks
  rcases walks with h | h | h
  · obtain ⟨m, le, w⟩ := FileSystem.walks_of_walk h
    exact .inl ⟨written.isTree tree, nonempty, ⟨m, le, w⟩, stays⟩
  · exact .inr ⟨nonempty, .inl h⟩
  · exact .inr ⟨nonempty, .inr ⟨_, h, by rw [file]; rintro ⟨⟩⟩⟩

/-- One write with its foothold inside the directory changes nothing outside, and further writes can
go on from it. -/
lemma IsAnchored.run [Circumstances] (anchored : IsAnchored fs target base)
    (inside : ∀ relative, write.path.relative = .ok relative →
      base <+: (fs.foothold base relative.named.dropLast).1) :
    (∀ l, ¬ base <+: l → (write.run target fs).files.get? l = fs.get? l) ∧
      ((write.run target fs).result = .ok () →
        IsAnchored (write.run target fs).files target base) := by
  rcases anchored with ⟨tree, leads⟩ | ⟨nonempty, stuck⟩
  · cases hr : write.path.relative with
    | error reason =>
      have refused : targetPathIn fs target write.path = .error reason := by
        rw [targetPathIn, hr]
        rfl
      rw [run_of_refused write refused]
      exact ⟨fun _ _ => rfl, fun h => by cases h⟩
    | ok relative =>
      obtain ⟨names, ne, proper, rfl⟩ := Path.relative_eq_ok hr
      obtain ⟨init, last, rfl⟩ : ∃ init last, names = init ++ [last] :=
        ⟨_, _, (List.dropLast_append_getLast ne).symm⟩
      have inside := inside _ hr
      rw [Path.named_ofNames ne proper, List.dropLast_concat] at inside
      obtain ⟨new, made, -, grown, done⟩ := run_lands tree leads proper hr
      have confined {after : FileSystem} (view : ∀ l,
          l ≠ (fs.foothold base init).1 ++ (fs.foothold base init).2 ++ [last] →
            after.get? l = made.get? l) (l : Location) (out : ¬ base <+: l) :
          after.get? l = fs.get? l := by
        by_contra changed
        exact out (inside.trans (FileSystem.prefix_of_write grown view changed))
      rcases done with ⟨-, -, parent, written⟩ | ⟨⟨error, failed⟩, view⟩
      · refine ⟨confined fun l ne => by rw [written.get?, if_neg ne], fun _ => ?_⟩
        -- the new directories are on no walk that there was, so the target leads where it did
        obtain ⟨n, le, w⟩ := leads.walks
        have leads' : made.Leads target base :=
          ⟨leads.nonempty, ⟨n, le, grown.current ▸ grown.walks w⟩, grown.keeps leads.directory⟩
        obtain ⟨-, -, -, -, hd⟩ := FileSystem.exists_foothold leads.directory init
        exact isAnchored_of_written (grown.isTree tree hd) leads' written
      · refine ⟨confined fun l _ => view l, fun ok => ?_⟩
        rw [failed] at ok
        cases ok
  · obtain ⟨⟨error, failed⟩, view⟩ := run_of_stuck stuck nonempty
    refine ⟨fun l _ => view l, fun ok => ?_⟩
    rw [failed] at ok
    cases ok

/-- Every write has its foothold inside the directory when its turn comes. -/
def StayInside [Circumstances] (target : Path) (base : Location) :
    List TargetWrite → FileSystem → Prop
  | [], _ => True
  | write :: rest, fs =>
    (∀ relative, write.path.relative = .ok relative →
      base <+: (fs.foothold base relative.named.dropLast).1) ∧
    ((write.run target fs).result = .ok () →
      StayInside target base rest (write.run target fs).files)

/-- Writes that have their footholds inside the directory change nothing outside. -/
theorem filesAfter_confined [Circumstances] (anchored : IsAnchored fs target base)
    {writes : List TargetWrite} (inside : StayInside target base writes fs) {l : Location}
    (out : ¬ base <+: l) :
    (filesAfter target writes fs).get? l = fs.get? l := by
  -- not `Leads` but `IsAnchored` is kept: a write may take the place of a link on the way to the
  -- target, and the next write then comes to a stop there
  induction writes generalizing fs with
  | nil => rfl
  | cons write rest ih =>
    obtain ⟨confined, goes⟩ := anchored.run inside.1
    rw [filesAfter]
    cases result : (write.run target fs).result with
    | error error => exact confined l out
    | ok => exact (ih (goes result) (inside.2 result)).trans (confined l out)

end TargetWrite

/-- In all circumstances, rendering and installing hooks stay inside the directory that the target
leads to as long as the foothold of every path is there when its turn comes. This is what decides: a
write that goes through puts its file below the foothold of its path, inside the directory exactly if
the foothold is. A path that is there already and leads out is refused, and nothing is changed. -/
theorem writes_stay_inside [Circumstances] {fs : FileSystem} {target : Path} {base : Location}
    (tree : fs.IsTree) (root : fs.canonical target = .ok base)
    (directory : fs.get? base = some .directory) :
    (∀ state postupAlias,
      TargetWrite.StayInside target base (Renderer.writes state postupAlias) fs →
      ∀ l, ¬ base <+: l →
        (Renderer.standard ⟨target, state, postupAlias⟩ fs).files.get? l = fs.get? l) ∧
    (∀ hooks, TargetWrite.StayInside target base (hooks.map Hook.asWrite) fs →
      ∀ l, ¬ base <+: l → (Hook.installAll target hooks fs).files.get? l = fs.get? l) ∧
    (∀ write : TargetWrite, (write.run target fs).result = .ok () →
      ∃ names last, write.path.relative = .ok (.ofNames (names ++ [last])) ∧
        (write.run target fs).files.get? (fs.landing base names last) =
          some (.file write.content (keptMode write.mode)) ∧
        (base <+: fs.landing base names last ↔ base <+: (fs.foothold base names).1)) ∧
    ∀ (write : TargetWrite) relative location, write.path.relative = .ok relative →
      fs.canonical (target.join relative) = .ok location → ¬ base <+: location →
      write.run target fs =
        ⟨.error (.path (.escapes (target.join relative) target)), fs, []⟩ := by
  have leads := FileSystem.leads_of_canonical root directory
  have anchored : TargetWrite.IsAnchored fs target base := .inl ⟨tree, leads⟩
  refine ⟨?_, ?_, ?_, ?_⟩
  · intro state postupAlias inside l out
    rw [Renderer.standard_files]
    exact TargetWrite.filesAfter_confined anchored inside out
  · intro hooks inside l out
    rw [Hook.installAll_files]
    exact TargetWrite.filesAfter_confined anchored inside out
  · intro write done
    cases accepted : targetPathIn fs target write.path with
    | error reason =>
      rw [TargetWrite.run_of_refused write accepted] at done
      cases done
    | ok path =>
      obtain ⟨names, ne, proper, hr, -, -⟩ := targetPathIn_eq_ok accepted
      obtain ⟨init, last, rfl⟩ : ∃ init last, names = init ++ [last] :=
        ⟨_, _, (List.dropLast_append_getLast ne).symm⟩
      refine ⟨init, last, hr, ?_⟩
      obtain ⟨new, made, -, grown, ⟨-, rfl, parent, written⟩ | ⟨⟨error, failed⟩, -⟩⟩ :=
        TargetWrite.run_lands tree leads proper hr
      · exact ⟨written.file, FileSystem.prefix_landing_iff directory grown written⟩
      · rw [failed] at done
        cases done
  · intro write relative location hr found out
    have escapes : fs.escapes target (target.join relative) = true := by
      rw [FileSystem.escapes, root, found]
      dsimp only
      rwa [Bool.not_eq_true', ← Bool.not_eq_true, List.isPrefixOf_iff_prefix]
    refine write.run_of_refused ?_
    rw [targetPathIn, hr]
    simp [bind, Except.bind, escapes]

/-- A target with a link in it, beside another directory. -/
def linkedTarget (goal : Path) : FileSystem where
  entries :=
    [(.ofStrings ["target"], .directory), (.ofStrings ["outside"], .directory),
      (.ofStrings ["target", "lib"], .directory), (.ofStrings ["target", "etc"], .link goal)]
  current := []

/-- A hook that goes behind the link. -/
def hookBehindLink : Hook :=
  ⟨.ofString "etc/hook", "exit 0\n", scriptMode⟩

/-- Behind a link that stays inside, a hook is installed with nothing changed outside. -/
theorem writes_stay_inside_linkedTarget :
    (linkedTarget (.ofString "lib")).IsTree ∧
      (linkedTarget (.ofString "lib")).canonical (.ofString "target") =
        .ok (.ofStrings ["target"]) ∧
      (linkedTarget (.ofString "lib")).get? (.ofStrings ["target"]) = some .directory ∧
      (Hook.installAll (.ofString "target") [hookBehindLink]
        (linkedTarget (.ofString "lib"))).files.get? (.ofStrings ["target", "lib", "hook"]) =
        some (.file hookBehindLink.content.toUTF8 0o755) ∧
      ∀ l, ¬ Location.ofStrings ["target"] <+: l →
        (Hook.installAll (.ofString "target") [hookBehindLink]
          (linkedTarget (.ofString "lib"))).files.get? l =
          (linkedTarget (.ofString "lib")).get? l := by
  have tree : (linkedTarget (.ofString "lib")).IsTree := by
    intro l entry h
    by_cases ne : l = []
    · subst ne
      rfl
    · have := FileSystem.mem_of_get? ne h
      simp only [linkedTarget, List.mem_cons, Prod.mk.injEq, List.not_mem_nil, or_false] at this
      rcases this with ⟨rfl, -⟩ | ⟨rfl, -⟩ | ⟨rfl, -⟩ | ⟨rfl, -⟩ <;> decide +kernel
  have root : (linkedTarget (.ofString "lib")).canonical (.ofString "target") =
      .ok (.ofStrings ["target"]) := by
    decide +kernel
  have directory : (linkedTarget (.ofString "lib")).get? (.ofStrings ["target"]) =
      some .directory := by
    decide +kernel
  have foothold : (linkedTarget (.ofString "lib")).foothold (.ofStrings ["target"])
      (hookBehindLink.path.named.dropLast) = (.ofStrings ["target", "lib"], []) := by
    decide +kernel
  have relative : hookBehindLink.path.relative = .ok hookBehindLink.path := by
    decide +kernel
  refine ⟨tree, root, directory, by decide +kernel, ?_⟩
  refine (writes_stay_inside tree root directory).2.1 [hookBehindLink] ⟨?_, fun _ => trivial⟩
  intro path h
  cases relative.symm.trans h
  rw [foothold]
  exact ⟨Location.ofStrings ["lib"], rfl⟩

example : (Hook.installAll (.ofString "target") [hookBehindLink]
    (linkedTarget (.ofString "../outside"))).files.get? (.ofStrings ["outside", "hook"]) =
      some (.file hookBehindLink.content.toUTF8 0o755) := by
  decide +kernel

end TargetNet
