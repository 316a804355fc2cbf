import Mathlib.Data.List.Basic
import Mathlib.Tactic.Common
import TargetNet.Proofs.FileSystem.Walk

/-!
# Making directories

Where there is a directory nothing is made (`makeDirectories_of_directory`).
-/

namespace TargetNet

/-- A path with a parent has a name. -/
lemma Path.named_ne_nil {path parent : Path} (h : path.parent? = some parent) :
    path.named ≠ [] := by
  intro none
  have empty : ∀ piece ∈ pieces path.bytes, piece = [] := by
    simpa [named, List.filter_eq_nil_iff] using none
  have nothing : (pieces path.bytes).filterMap ofPiece = [] := by
    rw [List.filterMap_eq_nil_iff]
    intro piece hp
    rw [empty piece hp]
    rfl
  have alone : path.components = [.root] ∨ path.components = [] := by
    rw [components, nothing, List.append_nil, start]
    split
    · exact .inl rfl
    · split
      · rename_i here
        exact absurd (empty _ (List.mem_of_head? here)) (by simp)
      · exact .inr rfl
  rcases alone with e | e <;> rw [parent?, e] at h <;> cases h

namespace FileSystem

/-- No directory is made where a path leads to something already. -/
lemma makeDirectory_of_resolve {fs : FileSystem} {path : Path} {location : Location}
    (h : fs.resolve path = .ok location) (ne : path.named ≠ []) :
    fs.makeDirectory path = .error .alreadyExists := by
  obtain ⟨check, arrives⟩ := resolve_eq_ok_iff.1 h
  obtain ⟨n, le, w⟩ := walk_eq_ok_iff.1 arrives
  obtain ⟨init, last, e⟩ : ∃ init last, path.named = init ++ [last] := by
    rcases List.eq_nil_or_concat path.named with e | ⟨init, last, e⟩
    · exact absurd e ne
    · exact ⟨init, last, e.trans List.concat_eq_append⟩
  obtain ⟨after, steps⟩ : ∃ after, path.steps = init ++ last :: after := by
    cases slashed : path.endsInSlash with
    | false => exact ⟨[], by rw [Path.steps_eq_named slashed, e]⟩
    | true =>
      have : path.steps = path.named ++ [[Path.dot]] := if_pos slashed
      exact ⟨[[Path.dot]], by rw [this, e, List.append_assoc, List.singleton_append]⟩
  rw [steps] at w
  -- the walk stops before the last name: `w` leads to its directory, and `on` from there
  obtain ⟨k, m, mid, rfl, w, on⟩ := w.split
  have arrived : fs.walk maxLinks (startOf path fs.current) path.named.dropLast = .ok mid := by
    rw [e, List.dropLast_concat]
    exact w.walk (by omega)
  have hlast : path.named.getLast? = some last := by rw [e, List.getLast?_concat]
  by_cases dots : last = [Path.dot] ∨ last = [Path.dot, Path.dot]
  · rw [makeDirectory, locate_of_dots check arrived on.isDirectory_of_cons hlast dots]
    rfl
  · obtain ⟨h1, h2⟩ := not_or.1 dots
    have located := locate_eq_ok_iff.2
      ⟨check, arrived, on.isDirectory_of_cons, hlast, h1, h2, rfl⟩
    have short : ¬ last.length > Path.maxName ∧ (fs.get? (mid ++ [last])).isSome = true := by
      cases on with
      | dot => exact absurd rfl h1
      | up => exact absurd rfl h2
      | into _ hn he _ _ => exact ⟨Nat.not_lt.2 hn.2.2, by rw [he]; rfl⟩
      | link _ hn hl _ => exact ⟨Nat.not_lt.2 hn.2.2, by rw [hl]; rfl⟩
    rw [makeDirectory, located]
    simp only [bind, Except.bind]
    rw [if_neg short.1, if_pos short.2]

/-- Where there is a directory, nothing is made. -/
lemma makeDirectories_of_directory {fs : FileSystem} {path : Path} {location : Location}
    (h : fs.directory path = .ok location) : fs.makeDirectories path = (fs, .ok ()) := by
  rw [makeDirectories, Path.upwards]
  cases path.components.length with
  | zero => rfl
  | succ fuel =>
    rw [Path.upwards.go]
    cases e : path.parent? with
    | none => rfl
    | some parent =>
      have ne := Path.named_ne_nil e
      rcases directory_eq_ok_iff.1 h with ⟨empty, -⟩ | ⟨found, hd⟩
      · rw [Path.named, empty] at ne
        exact absurd rfl ne
      · have isDirectory : fs.isDirectory path = true := by
          simp [FileSystem.isDirectory, find, found, hd, bind, Except.bind]
        simp [makeAll, makeDirectory_of_resolve found ne, isDirectory]

end FileSystem
end TargetNet
