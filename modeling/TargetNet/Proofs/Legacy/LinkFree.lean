import Mathlib.Data.List.Basic
import Mathlib.Tactic.Common
import TargetNet.Legacy.Known
import TargetNet.Proofs.Legacy.Reconcile
import TargetNet.Proofs.LinkFreeTarget

/-!
# Reconciling in a target without links

Without links, the entry that the path of an artifact names is the file that it leads to. So the
outcome of reconciling says what was there and what is left (`Artifact.Settles`), and from then on the
artifact rests: reconciling it once more changes nothing (`reconcile_of_grounded`). An outcome also
says where reading or removing was refused. It does not say that an annotation could not be written, so
this is taken to be allowed (`Artifact.MayAnnotate`).
-/

namespace TargetNet

namespace Legacy

/-- The location that the path of an artifact spells below the directory of its target. -/
def Artifact.place (base : Location) (artifact : Artifact) : Location :=
  base ++ artifact.path.named

/-- What an outcome says of the entry in the place of an artifact, before and after. -/
inductive Artifact.Settles [Circumstances] (artifact : Artifact) (target : Path) :
    Option Entry → Option Outcome → Option Entry → Prop where
  | removed {content mode text} :
    artifact.policy = .delete →
    Text.Utf8.decode content = .ok text →
    contentLinesOf text = artifact.expected →
    Settles artifact target (some (.file content mode)) (some .removed) none
  | annotated {content mode text note} :
    artifact.policy = .annotate note →
    Text.Utf8.decode content = .ok text →
    contentLinesOf text = artifact.expected →
    Settles artifact target (some (.file content mode)) (some .removedAndAnnotated)
      (some (.file note.toUTF8 0o644))
  | preserved {content mode text} :
    Text.Utf8.decode content = .ok text →
    contentLinesOf text ≠ artifact.expected →
    Settles artifact target (some (.file content mode)) (some .preserved)
      (some (.file content mode))
  | absent :
    Settles artifact target none (some .absent) none
  /-- No text is there, or the path cannot be used, or the system refuses to read it. -/
  | unreadable {entry} :
    (∀ content mode text, entry = some (.file content mode) →
      Text.Utf8.decode content = .ok text → (target.join artifact.path).check = .ok () →
        Circumstances.reading (target.join artifact.path) mode ≠ none) →
    Settles artifact target entry (some .unreadable) entry
  /-- There is no outcome where the system refuses to remove the shipped file. -/
  | stuck {content mode text} :
    Text.Utf8.decode content = .ok text →
    contentLinesOf text = artifact.expected →
    Circumstances.removing (target.join artifact.path) ≠ none →
    Settles artifact target (some (.file content mode)) none (some (.file content mode))

/-- The outcome of reconciling once more. -/
def Outcome.again : Outcome → Outcome
  | .removed => .absent
  | .removedAndAnnotated => .preserved
  | .preserved => .preserved
  | .absent => .absent
  | .unreadable => .unreadable

variable [Circumstances]

/-- The system allows the annotation, if any, to be written. -/
def Artifact.MayAnnotate (artifact : Artifact) (target : Path) : Prop :=
  ∀ note, artifact.policy = .annotate note →
    Circumstances.writing (target.join artifact.path) = .none

/-- The annotation, if any, may be read, and is not taken for what was shipped. -/
def Artifact.IsLasting (artifact : Artifact) (target : Path) : Prop :=
  ∀ note, artifact.policy = .annotate note →
    contentLinesOf note ≠ artifact.expected ∧
      Circumstances.reading (target.join artifact.path) 0o644 = none

/-- What is found calls for nothing to be done, and this is the outcome; or it would have to be removed,
which is refused, and there is no outcome. -/
def Artifact.RestsAs (artifact : Artifact) (target : Path) (fs : FileSystem)
    (outcome : Option Outcome) : Prop :=
  match artifact.left (artifact.inspect fs (target.join artifact.path)) with
  | some (found, _) => outcome = some found
  | none => outcome = none ∧ Circumstances.removing (target.join artifact.path) ≠ none

variable {fs : FileSystem} {target : Path} {base : Location} {artifact : Artifact}

/-- Where two file systems have the same on the way to an artifact, the same is found of it. -/
lemma inspect_congr {fs' : FileSystem} (g : fs.Grounded target base)
    (g' : fs'.Grounded target base) (plain : artifact.path.IsPlain)
    (same : ∀ init, init <+: artifact.path.named → fs'.get? (base ++ init) = fs.get? (base ++ init)) :
    artifact.inspect fs' (target.join artifact.path) =
      artifact.inspect fs (target.join artifact.path) := by
  have found := g.resolve_congr g' plain same
  have read : fs'.read (target.join artifact.path) = fs.read (target.join artifact.path) := by
    rw [FileSystem.read, FileSystem.read, FileSystem.find, FileSystem.find, found]
    cases result : fs.resolve (target.join artifact.path) with
    | error fault => rfl
    | ok location =>
      obtain ⟨rfl, -⟩ := g.resolve_eq_ok plain result
      simp only [bind, Except.bind, same _ List.prefix_rfl]
  rw [Artifact.inspect, Artifact.inspect, FileSystem.exists?, FileSystem.exists?, found, read]

/-- A shipped file that the system refuses to remove is left alone, and there is no outcome. -/
lemma reconcile_of_refusal (g : fs.Grounded target base) (plain : artifact.path.IsPlain)
    (shipped : artifact.inspect fs (target.join artifact.path) = .asShipped)
    (refused : Circumstances.removing (target.join artifact.path) ≠ none) :
    (reconcile target artifact fs).result.toOption = none ∧
      (reconcile target artifact fs).files = fs := by
  obtain ⟨fault, refused⟩ := Option.ne_none_iff_exists'.1 refused
  rw [reconcile_of_stuck (g.targetPathIn_eq plain) shipped (by rw [remains, refused])]
  exact ⟨rfl, rfl⟩

/-- An artifact at rest is left alone. -/
lemma reconcile_of_restsAs {outcome : Option Outcome} (g : fs.Grounded target base)
    (plain : artifact.path.IsPlain) (rests : artifact.RestsAs target fs outcome) :
    (reconcile target artifact fs).result.toOption = outcome ∧
      (reconcile target artifact fs).files = fs := by
  rw [Artifact.RestsAs] at rests
  cases left : artifact.left (artifact.inspect fs (target.join artifact.path)) with
  | none =>
    rw [left] at rests
    obtain ⟨rfl, refused⟩ := rests
    exact reconcile_of_refusal g plain (Artifact.left_eq_none_iff.1 left) refused
  | some report =>
    rw [left] at rests
    obtain rfl := rests
    rw [reconcile_of_left (g.targetPathIn_eq plain) left]
    exact ⟨rfl, rfl⟩

/-- An artifact that is left alone settles as it rests. -/
lemma settles_of_left {inspection : Inspection} {outcome : Outcome} {detail : String}
    (g : fs.Grounded target base) (plain : artifact.path.IsPlain)
    (found : artifact.inspect fs (target.join artifact.path) = inspection)
    (left : artifact.left inspection = some (outcome, detail)) :
    artifact.Settles target (fs.get? (artifact.place base)) (some outcome)
        (fs.get? (artifact.place base)) ∧
      outcome.again = outcome := by
  have finds := finds_inspect artifact fs (target.join artifact.path)
  rw [found] at finds
  have unread (h : IsUnreadable fs (target.join artifact.path)) (content : ByteArray) (mode : Nat)
      (text : String) (file : fs.get? (artifact.place base) = some (.file content mode))
      (decoded : Text.Utf8.decode content = .ok text)
      (check : (target.join artifact.path).check = .ok ()) :
      Circumstances.reading (target.join artifact.path) mode ≠ none := by
    have arrives := g.resolve_of_some plain check file
    cases h with
    | lost lost _ => cases arrives.symm.trans lost
    | noFile found none =>
      cases arrives.symm.trans found
      exact absurd file (none content mode)
    | refused found file' refused =>
      cases arrives.symm.trans found
      cases file.symm.trans file'
      rw [refused]
      rintro ⟨⟩
    | noText found file' readable undecoded =>
      cases arrives.symm.trans found
      cases file.symm.trans file'
      cases decoded.symm.trans undecoded
  cases inspection with
  | absent =>
    cases left
    rw [Artifact.place, g.get?_of_noEntry plain finds]
    exact ⟨.absent, rfl⟩
  | uninspectable fault =>
    cases left
    exact ⟨.unreadable (unread finds), rfl⟩
  | unreadable fault =>
    cases left
    exact ⟨.unreadable (unread finds), rfl⟩
  | changed =>
    cases left
    obtain ⟨text, ⟨location, content, mode, arrives, file, -, decoded⟩, lines⟩ := finds
    obtain ⟨rfl, -⟩ := g.resolve_eq_ok plain arrives
    rw [Artifact.place, file]
    exact ⟨.preserved decoded lines, rfl⟩
  | asShipped => cases left

/-- A shipped file is the entry in its place, with these names in the path to it. -/
structure Artifact.ShippedAt (artifact : Artifact) (target : Path) (base : Location)
    (fs : FileSystem) (init : List Name) (last : Name) : Prop where
  split : artifact.path.named = init ++ [last]
  shipped : artifact.IsShipped fs (target.join artifact.path)
  check : (target.join artifact.path).check = .ok ()
  directory : fs.get? (base ++ init) = some .directory
  located : fs.locate (target.join artifact.path) = .ok (base ++ init, some last, false)
  leaf : ∃ goal, fs.IsLeaf (base ++ init) last goal
  file : ∃ content mode text, fs.get? (artifact.place base) = some (.file content mode) ∧
    Text.Utf8.decode content = .ok text ∧ contentLinesOf text = artifact.expected

/-- Without links, a shipped file is in its place. -/
lemma Artifact.IsShipped.shippedAt (g : fs.Grounded target base) (plain : artifact.path.IsPlain)
    (shipped : artifact.IsShipped fs (target.join artifact.path)) :
    ∃ init last, artifact.ShippedAt target base fs init last := by
  obtain ⟨init, last, split⟩ := plain.concat
  obtain ⟨text, ⟨location, content, mode, found, file, readable, decoded⟩, lines⟩ := id shipped
  obtain ⟨rfl, -⟩ := g.resolve_eq_ok plain found
  have check := (FileSystem.resolve_eq_ok_iff.1 found).1
  have there : fs.get? (base ++ init ++ [last]) = some (.file content mode) := by
    rw [List.append_assoc, ← split]
    exact file
  have hd : fs.get? (base ++ init) = some .directory :=
    g.tree.directory (List.cons_ne_nil last []) there
  have located := g.locate_join plain check split hd
  obtain ⟨directory, name, goal, located', -, leaf⟩ :=
    isLeaf_of_shipped (g.targetPathIn_eq plain) shipped
  cases located.symm.trans located'
  exact ⟨init, last, split, shipped, check, hd, located, ⟨goal, leaf⟩, content, mode, text, file,
    decoded, lines⟩

namespace Artifact.ShippedAt

variable {init : List Name} {last : Name} (there : artifact.ShippedAt target base fs init last)

include there

/-- Its names spell its place. -/
lemma place_eq : base ++ init ++ [last] = artifact.place base := by
  rw [Artifact.place, there.split, List.append_assoc]

/-- It can be taken away, unless this is refused. -/
lemma remains_eq (removable : Circumstances.removing (target.join artifact.path) = none) :
    remains fs (target.join artifact.path) = .ok (fs.erase (artifact.place base)) := by
  obtain ⟨goal, leaf⟩ := there.leaf
  rw [← there.place_eq]
  exact remains_eq_ok_iff.2 ⟨removable, FileSystem.remove_of_isLeaf there.located leaf⟩

/-- Then an annotation can be written in its place, as its directory is still there. -/
lemma writeFile_annotation (plain : artifact.path.IsPlain)
    (allowed : Circumstances.writing (target.join artifact.path) = .none) (note : String) :
    (writeFile (target.join artifact.path) note.toUTF8 configMode
      (fs.erase (artifact.place base))).result = .ok () := by
  obtain ⟨goal, leaf⟩ := there.leaf
  have located := FileSystem.locate_erase there.located leaf
  rw [there.place_eq] at located
  refine writeFile_of_locate allowed located (plain.short last (by simp [there.split])) ?_
  rw [there.place_eq, fs.get?_erase_self (there.place_eq ▸ List.concat_ne_nil _ _)]
  rintro ⟨⟩

/-- Reconciling removes or annotates it, and nothing else changes. -/
lemma reconcile_spec (g : fs.Grounded target base) (plain : artifact.path.IsPlain)
    (removable : Circumstances.removing (target.join artifact.path) = none) :
    (reconcile target artifact fs).result = .ok artifact.policy.outcome ∧
      fs.ChangesOnly (reconcile target artifact fs).files [artifact.place base] [] ∧
      (reconcile target artifact fs).files.Grounded target base ∧
      ∃ left events, (reconcile target artifact fs).files.get? (artifact.place base) = left ∧
        Remainder (target.join artifact.path) (fs.erase (artifact.place base)) artifact.policy
          left events := by
  obtain ⟨content, mode, text, file, -⟩ := there.file
  obtain ⟨directory, name, left, events, located, result, view, -, remainder⟩ :=
    reconcile_of_shipped (g.targetPathIn_eq plain) there.shipped (there.remains_eq removable)
  cases there.located.symm.trans located
  rw [there.place_eq] at view
  have changes : fs.ChangesOnly (reconcile target artifact fs).files [artifact.place base] [] := by
    refine ⟨reconcile_current _ _ _, fun l => ?_⟩
    by_cases e : l = artifact.place base
    · refine .replaced (List.mem_singleton.2 e) ?_ ?_
      · intro entry h
        rw [e, file] at h
        cases h
        exact ⟨content, mode, rfl⟩
      · intro held link
        rw [view, if_pos e] at link
        rcases remainder.left_eq with gone | ⟨text, -, annotated⟩
        · cases link.symm.trans gone
        · cases link.symm.trans annotated
    · exact .same ((view l).trans (if_neg e))
  exact ⟨result, changes, changes.grounded g (g.tree.of_view file (by rintro ⟨⟩) view), left, events,
    (view _).trans (if_pos rfl), remainder⟩

end Artifact.ShippedAt

/-- A shipped file is removed or annotated, nothing else changes, and then the artifact rests. -/
lemma settles_of_shipped (g : fs.Grounded target base) (plain : artifact.path.IsPlain)
    (annotating : artifact.MayAnnotate target)
    (shipped : artifact.IsShipped fs (target.join artifact.path))
    (removable : Circumstances.removing (target.join artifact.path) = none) :
    (reconcile target artifact fs).result = .ok artifact.policy.outcome ∧
      fs.ChangesOnly (reconcile target artifact fs).files [artifact.place base] [] ∧
      (reconcile target artifact fs).files.Grounded target base ∧
      artifact.Settles target (fs.get? (artifact.place base)) (some artifact.policy.outcome)
        ((reconcile target artifact fs).files.get? (artifact.place base)) ∧
      (artifact.IsLasting target → artifact.RestsAs target (reconcile target artifact fs).files
        (some artifact.policy.outcome.again)) := by
  obtain ⟨init, last, there⟩ := shipped.shippedAt g plain
  obtain ⟨content, mode, text, file, decoded, lines⟩ := there.file
  obtain ⟨result, changes, g', left, events, now, remainder⟩ :=
    there.reconcile_spec g plain removable
  refine ⟨result, changes, g', ?_⟩
  rw [file, now]
  cases policy : artifact.policy with
  | delete =>
    rw [policy] at remainder
    cases remainder
    refine ⟨.removed policy decoded lines, fun _ => ?_⟩
    have hd := changes.keeps_other there.directory Entry.not_isFile_directory
    have absent :=
      inspect_of_absent artifact (g'.resolve_of_none plain there.check there.split hd now)
    rw [Artifact.RestsAs, absent]
    rfl
  | annotate note =>
    rw [policy] at remainder
    cases remainder with
    | annotated =>
      refine ⟨.annotated policy decoded lines, fun lasting => ?_⟩
      obtain ⟨other, readable⟩ := lasting note policy
      have holds : Holds (reconcile target artifact fs).files (target.join artifact.path) note :=
        ⟨_, _, _, g'.resolve_of_some plain there.check now, now, readable,
          Text.Utf8.decode_toUTF8 note⟩
      have changed := inspect_of_changed ⟨note, holds, other⟩
      rw [Artifact.RestsAs, changed]
      rfl
    | bare failed =>
      cases (there.writeFile_annotation plain (annotating note policy) note).symm.trans failed

/-- Without links, the outcome of reconciling says what was there and what is left, nothing else
changes, and then the artifact rests. -/
theorem reconcile_of_grounded (g : fs.Grounded target base) (plain : artifact.path.IsPlain)
    (annotating : artifact.MayAnnotate target) :
    ∃ outcome, (reconcile target artifact fs).result.toOption = outcome ∧
      fs.ChangesOnly (reconcile target artifact fs).files [artifact.place base] [] ∧
      (reconcile target artifact fs).files.Grounded target base ∧
      artifact.Settles target (fs.get? (artifact.place base)) outcome
        ((reconcile target artifact fs).files.get? (artifact.place base)) ∧
      (artifact.IsLasting target →
        artifact.RestsAs target (reconcile target artifact fs).files (outcome.map .again)) := by
  cases found : artifact.left (artifact.inspect fs (target.join artifact.path)) with
  | none =>
    have asShipped := Artifact.left_eq_none_iff.1 found
    have shipped := inspect_eq_asShipped_iff.1 asShipped
    by_cases removable : Circumstances.removing (target.join artifact.path) = none
    · obtain ⟨result, changes⟩ := settles_of_shipped g plain annotating shipped removable
      exact ⟨_, congrArg Except.toOption result, changes⟩
    · obtain ⟨_, _, there⟩ := shipped.shippedAt g plain
      obtain ⟨content, mode, text, file, decoded, lines⟩ := there.file
      obtain ⟨result, files⟩ := reconcile_of_refusal g plain asShipped removable
      refine ⟨_, result, ?_⟩
      rw [files, file]
      refine ⟨.refl _ _ _, g, .stuck decoded lines removable, fun _ => ?_⟩
      rw [Artifact.RestsAs, found]
      exact ⟨rfl, removable⟩
  | some report =>
    obtain ⟨outcome, detail⟩ := report
    have rests : artifact.RestsAs target fs (some outcome) := by
      rw [Artifact.RestsAs, found]
    obtain ⟨result, files⟩ := reconcile_of_restsAs g plain rests
    obtain ⟨settles, again⟩ := settles_of_left g plain rfl found
    refine ⟨_, result, ?_⟩
    rw [files, Option.map_some, again]
    exact ⟨.refl _ _ _, g, settles, fun _ => rests⟩

end Legacy
end TargetNet
