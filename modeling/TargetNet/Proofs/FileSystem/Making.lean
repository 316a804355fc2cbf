import Mathlib.Data.List.Basic
import Mathlib.Tactic.Common
import TargetNet.Proofs.FileSystem.Foothold

/-!
# Directories that are made

Making directories adds directories where nothing was, each at the place that one of the paths names,
and changes nothing else (`MadeFor`). One directory does so (`madeFor_makeDirectory`), and what is made
after it keeps that (`MadeFor.trans`), so a whole run does (`madeFor_makeAll`), even one that fails half
way.
-/

namespace TargetNet.FileSystem

/-- A path names the entry at a location, whether or not there is one. -/
def Names (fs : FileSystem) (path : Path) (l : Location) : Prop :=
  ∃ directory name slash, fs.locate path = .ok (directory, some name, slash) ∧
    l = directory ++ [name]

/-- A directory was made where nothing was, and one of the paths names it. -/
structure NewDirectory (fs made : FileSystem) (paths : List Path) (l : Location) : Prop where
  named : ∃ path ∈ paths, made.Names path l
  free : fs.get? l = none
  directory : made.get? l = some .directory

/-- Nothing has changed but for directories that were made at the places of some paths. -/
structure MadeFor (fs made : FileSystem) (paths : List Path) : Prop where
  current : made.current = fs.current
  each : ∀ l, made.get? l = fs.get? l ∨ NewDirectory fs made paths l

/-- A path names one place at most. -/
lemma Names.unique {fs : FileSystem} {path : Path} {l l' : Location} (h : fs.Names path l)
    (h' : fs.Names path l') : l = l' := by
  obtain ⟨_, _, _, located, rfl⟩ := h
  obtain ⟨_, _, _, located', rfl⟩ := h'
  cases located.symm.trans located'
  rfl

/-- A path names the same place as long as everything on its way stays. -/
lemma Names.of_keeps {fs made : FileSystem} {path : Path} {l : Location} (h : fs.Names path l)
    (current : made.current = fs.current)
    (keeps : ∀ l entry, fs.get? l = some entry → made.get? l = some entry) :
    made.Names path l := by
  obtain ⟨directory, name, slash, located, rfl⟩ := h
  exact ⟨directory, name, slash, locate_of_keeps located current keeps, rfl⟩

namespace MadeFor

variable {fs mid made : FileSystem} {paths paths' : List Path}

lemma refl (fs : FileSystem) (paths : List Path) : MadeFor fs fs paths :=
  ⟨rfl, fun _ => .inl rfl⟩

/-- What was there stays. -/
lemma keeps (m : MadeFor fs made paths) (l : Location) (entry : Entry)
    (h : fs.get? l = some entry) : made.get? l = some entry := by
  rcases m.each l with same | new
  · exact same.trans h
  · cases new.free.symm.trans h

/-- What is made for some paths is made for more. -/
lemma mono (m : MadeFor fs made paths) (sub : paths ⊆ paths') : MadeFor fs made paths' := by
  refine ⟨m.current, fun l => (m.each l).imp_right fun new => ?_⟩
  obtain ⟨path, mem, names⟩ := new.named
  exact { new with named := ⟨path, sub mem, names⟩ }

/-- What a path leads to is found as before. -/
lemma find (m : MadeFor fs made paths) {path : Path} {entry : Entry}
    (h : fs.find path = .ok entry) : made.find path = .ok entry :=
  find_of_keeps h m.current m.keeps

/-- What was made stays, under the path that names it, while more is made. -/
lemma trans (m : MadeFor fs mid paths) (m' : MadeFor mid made paths) : MadeFor fs made paths := by
  refine ⟨m'.current.trans m.current, fun l => ?_⟩
  rcases m.each l with same | new
  · rcases m'.each l with same' | new
    · exact .inl (same'.trans same)
    · exact .inr { new with free := same.symm.trans new.free }
  · obtain ⟨path, mem, names⟩ := new.named
    exact .inr {
      named := ⟨path, mem, names.of_keeps m'.current m'.keeps⟩
      free := new.free
      directory := m'.keeps l _ new.directory }

end MadeFor

/-- A directory is made for its own path. -/
lemma madeFor_makeDirectory {fs made : FileSystem} {path : Path} {paths : List Path}
    (h : fs.makeDirectory path = .ok made) (mem : path ∈ paths) : MadeFor fs made paths := by
  obtain ⟨directory, name, slash, located, -, free, rfl⟩ := makeDirectory_eq_ok h
  have keeps (l : Location) (entry : Entry) (there : fs.get? l = some entry) :
      (fs.set (directory ++ [name]) .directory).get? l = some entry := by
    rw [get?_set_of_ne, there]
    rintro rfl
    cases free.symm.trans there
  refine ⟨rfl, fun l => ?_⟩
  by_cases here : l = directory ++ [name]
  · subst here
    exact .inr {
      named := ⟨path, mem, directory, name, slash, locate_of_keeps located rfl keeps, rfl⟩
      free := free
      directory := fs.get?_set_self (by simp) _ }
  · exact .inl (fs.get?_set_of_ne here _)

/-- Making directories makes them for the paths, whether or not it comes to an end. -/
lemma madeFor_makeAll (fs : FileSystem) (paths : List Path) :
    MadeFor fs (fs.makeAll paths).1 paths := by
  induction paths generalizing fs with
  | nil => exact .refl fs []
  | cons path above ih =>
    rw [makeAll]
    cases first : fs.makeDirectory path with
    | ok made => exact madeFor_makeDirectory first List.mem_cons_self
    | error fault =>
      by_cases missing : fault = .noEntry
      · subst missing
        have before := (ih fs).mono (List.subset_cons_self path above)
        cases rest : fs.makeAll above with
        | mk files result =>
          rw [rest] at before
          cases result with
          | error fault => exact before
          | ok =>
            dsimp only
            cases second : files.makeDirectory path with
            | ok made => exact before.trans (madeFor_makeDirectory second List.mem_cons_self)
            | error fault =>
              dsimp only
              split <;> exact before
      · cases fault <;> first | exact absurd rfl missing | (dsimp only; split <;> exact .refl fs _)

end TargetNet.FileSystem
