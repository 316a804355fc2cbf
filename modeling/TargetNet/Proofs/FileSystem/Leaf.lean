import Mathlib.Data.List.Basic
import Mathlib.Tactic.Common
import TargetNet.Proofs.FileSystem.Walk

/-!
# Entries that lead to files

The entry that a path to a file names, a file itself or a link, is a leaf: no walk that ends in a
directory goes through it (`Walks.erase`). So the directory of such a path is found as well when the
entry is gone (`locate_erase`), however many links the path leads through.
-/

namespace TargetNet.FileSystem

/-- Looking up the name of an entry in its directory ends at a file. -/
structure IsLeaf (fs : FileSystem) (directory : Location) (name : Name) (goal : Location) :
    Prop where
  isName : Path.IsName name
  inside : fs.get? directory = some .directory
  leads : ∃ n, fs.Walks n directory [name] goal
  isFile : ∃ content mode, fs.get? goal = some (.file content mode)

/-- A path that leads to a file, with no slash at its end, names an entry that leads there. -/
lemma isLeaf_of_resolve {fs : FileSystem} {path : Path} {goal : Location} {name : Name}
    {content : ByteArray} {mode : Nat} (h : fs.resolve path = .ok goal)
    (file : fs.get? goal = some (.file content mode)) (slashed : path.endsInSlash = false)
    (last : path.named.getLast? = some name) (proper : Path.IsProper name) :
    ∃ directory, fs.locate path = .ok (directory, some name, false) ∧
      fs.IsLeaf directory name goal := by
  obtain ⟨check, arrives⟩ := resolve_eq_ok_iff.1 h
  obtain ⟨n, le, w⟩ := walk_eq_ok_iff.1 arrives
  rw [Path.steps_of_getLast? slashed last] at w
  obtain ⟨k, m, directory, rfl, w, on⟩ := w.split
  have hd := on.isDirectory_of_cons
  refine ⟨directory, locate_eq_ok_iff.2 ⟨check, w.walk (by omega), hd, last, proper.ne_dot,
    proper.ne_dots, slashed⟩, ?_, hd, ⟨m, on⟩, ⟨content, mode, file⟩⟩
  cases on with
  | dot => exact absurd rfl proper.ne_dot
  | up => exact absurd rfl proper.ne_dots
  | into _ hn _ _ _ => exact hn
  | link _ hn _ _ => exact hn

/-- The entry is the file itself, or a link on the way to it. -/
lemma IsLeaf.entry {fs : FileSystem} {directory name goal} (leaf : fs.IsLeaf directory name goal) :
    (goal = directory ++ [name] ∧ ∃ content mode,
      fs.get? (directory ++ [name]) = some (.file content mode)) ∨
    ∃ held n, fs.get? (directory ++ [name]) = some (.link held) ∧
      fs.Walks n (startOf held directory) held.steps goal := by
  obtain ⟨⟨h1, h2, -⟩, -, ⟨n, w⟩, content, mode, file⟩ := leaf
  cases w with
  | dot => exact absurd rfl h1
  | up => exact absurd rfl h2
  | into _ _ _ _ w =>
    cases w
    exact .inl ⟨rfl, content, mode, file⟩
  | link _ _ hl w =>
    rw [List.append_nil] at w
    exact .inr ⟨_, _, hl, w⟩

/-- The entry is no directory. -/
lemma IsLeaf.not_directory {fs : FileSystem} {directory name goal}
    (leaf : fs.IsLeaf directory name goal) :
    fs.get? (directory ++ [name]) ≠ some .directory := by
  rcases leaf.entry with ⟨-, content, mode, e⟩ | ⟨held, n, e, -⟩ <;> rw [e] <;> rintro ⟨⟩

/-- No walk that ends in a directory goes through a leaf. -/
lemma Walks.erase {fs : FileSystem} {n here steps goal} (w : fs.Walks n here steps goal)
    (hd : fs.get? goal = some .directory) {directory name file}
    (leaf : fs.IsLeaf directory name file) :
    (fs.erase (directory ++ [name])).Walks n here steps goal := by
  have kept {l entry} (he : fs.get? l = some entry) (ne : l ≠ directory ++ [name]) :
      (fs.erase (directory ++ [name])).get? l = some entry := by
    rwa [get?_erase_of_ne _ ne]
  have keptDirectory {l} (he : fs.get? l = some .directory) :
      (fs.erase (directory ++ [name])).get? l = some .directory :=
    kept he fun e => leaf.not_directory (e ▸ he)
  -- whoever comes to a file neither goes on nor is at the end
  have stuck {m l rest} (w : fs.Walks m l rest goal) {content mode}
      (hf : fs.get? l = some (.file content mode)) : False := by
    cases rest with
    | nil =>
      cases w
      rw [hd] at hf
      cases hf
    | cons step rest =>
      rw [w.isDirectory_of_cons] at hf
      cases hf
  induction w with
  | stay => exact .stay
  | dot hh _ ih => exact .dot (keptDirectory hh) (ih hd stuck)
  | up hh _ ih => exact .up (keptDirectory hh) (ih hd stuck)
  | @into n here step rest goal entry hh hn he hl w ih =>
    refine .into (keptDirectory hh) hn (kept he ?_) hl (ih hd stuck)
    intro same
    rw [same] at he w
    rcases leaf.entry with ⟨-, content, mode, e⟩ | ⟨held, n, e, -⟩
    · exact stuck w e
    · rw [he] at e
      exact hl ⟨held, Option.some.inj e⟩
  | @link n here step rest goal held hh hn hl w ih =>
    refine .link (keptDirectory hh) hn (kept hl ?_) (ih hd stuck)
    intro same
    obtain ⟨rfl, e⟩ := List.append_inj' same rfl
    cases e
    rcases leaf.entry with ⟨-, content, mode, e⟩ | ⟨held', m, e, arrives⟩
    · rw [hl] at e
      cases e
    · rw [hl] at e
      cases e
      -- the walk follows the leaf, so it comes to its file
      obtain ⟨k, k', mid, rfl, first, rest⟩ := w.split
      obtain rfl := first.end_unique arrives
      obtain ⟨content, mode, file⟩ := leaf.isFile
      exact stuck rest file

/-- Without a leaf, the place that its path names is found as before. -/
lemma locate_erase {fs : FileSystem} {path : Path} {directory goal : Location} {name : Name}
    {slash : Bool} (h : fs.locate path = .ok (directory, some name, slash))
    (leaf : fs.IsLeaf directory name goal) :
    (fs.erase (directory ++ [name])).locate path = .ok (directory, some name, slash) := by
  obtain ⟨check, arrives, hd, rest⟩ := locate_eq_ok_iff.1 h
  obtain ⟨n, le, w⟩ := walk_eq_ok_iff.1 arrives
  have ne : directory ≠ directory ++ [name] := fun e => leaf.not_directory (e ▸ hd)
  refine locate_eq_ok_iff.2 ⟨check, (w.erase hd leaf).walk le, ?_, rest⟩
  rwa [get?_erase_of_ne _ ne]

/-- The entry that a path names can be removed if it is a leaf. -/
lemma remove_of_isLeaf {fs : FileSystem} {path : Path} {directory goal : Location} {name : Name}
    (h : fs.locate path = .ok (directory, some name, false)) (leaf : fs.IsLeaf directory name goal) :
    fs.remove path = .ok (fs.erase (directory ++ [name])) := by
  have short : ¬ name.length > Path.maxName := Nat.not_lt.2 leaf.isName.2.2
  rw [remove, h]
  simp only [bind, Except.bind]
  rw [if_neg short]
  rcases leaf.entry with ⟨-, content, mode, e⟩ | ⟨held, n, e, -⟩ <;> rw [e] <;> rfl

end TargetNet.FileSystem
