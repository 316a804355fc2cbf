import Mathlib.Data.List.Basic
import Mathlib.Tactic.Common
import TargetNet.Proofs.FileSystem.Leads
import TargetNet.TargetFile

/-!
# File systems that show the same

How a file system lists its entries is not seen from outside. Two file systems with the same current
directory and the same entry at every location are `Alike`: every path leads to the same place in
both, and what can be looked up in one is looked up in the other in the same way.
-/

namespace TargetNet.FileSystem

/-- Two file systems that show the same entries, and read paths from the same directory. -/
structure Alike (fs fs' : FileSystem) : Prop where
  current : fs'.current = fs.current
  get? : ∀ l, fs'.get? l = fs.get? l

namespace Alike

variable {fs fs' : FileSystem}

lemma refl (fs : FileSystem) : fs.Alike fs := ⟨rfl, fun _ => rfl⟩

/-- What can be named of file systems that are alike is alike. -/
lemma nameable (h : fs.Alike fs') : fs.nameable.Alike fs'.nameable := by
  refine ⟨h.current, fun l => ?_⟩
  by_cases root : l = []
  · rw [root]
    rfl
  · rw [get?_nameable fs root, get?_nameable fs' root, h.get?]

lemma isDirectoryAt (h : fs.Alike fs') (l : Location) :
    fs'.isDirectoryAt l = fs.isDirectoryAt l := by
  rw [FileSystem.isDirectoryAt, FileSystem.isDirectoryAt, h.get?]

/-- Every look-up goes the same way. -/
lemma walk (h : fs.Alike fs') (links : Nat) (here : Location) (steps : List Name) :
    fs'.walk links here steps = fs.walk links here steps := by
  induction links, here, steps using fs.walk_induction with
  | arrived links here => rw [walk_nil, walk_nil]
  | dot links here rest hd ih => rw [walk_dot hd, walk_dot ((h.get? _).trans hd), ih]
  | up links here rest hd ih => rw [walk_up hd, walk_up ((h.get? _).trans hd), ih]
  | long links here step rest hd long =>
    rw [walk_long hd long, walk_long ((h.get? _).trans hd) long]
  | missing links here step rest hd hn missing =>
    rw [walk_missing hd hn missing,
      walk_missing ((h.get? _).trans hd) hn ((h.get? _).trans missing)]
  | spent here step rest held hd hn hl =>
    rw [walk_spent hd hn hl, walk_spent ((h.get? _).trans hd) hn ((h.get? _).trans hl)]
  | link links here step rest held hd hn hl ih =>
    rw [walk_link hd hn hl, walk_link ((h.get? _).trans hd) hn ((h.get? _).trans hl), ih]
  | into links here step rest entry hd hn he hl ih =>
    rw [walk_into hd hn he hl, walk_into ((h.get? _).trans hd) hn ((h.get? _).trans he) hl, ih]
  | blocked links here step rest hd =>
    rw [walk_blocked hd, walk_blocked (by rwa [h.get?])]

lemma resolve (h : fs.Alike fs') (path : Path) : fs'.resolve path = fs.resolve path := by
  rw [FileSystem.resolve, FileSystem.resolve, h.current]
  simp only [h.walk]

lemma canonical (h : fs.Alike fs') (path : Path) : fs'.canonical path = fs.canonical path := by
  rw [FileSystem.canonical, FileSystem.canonical, h.current]
  simp only [h.nameable.walk]

/-- Every path leads to the same. -/
lemma find (h : fs.Alike fs') (path : Path) : fs'.find path = fs.find path := by
  rw [FileSystem.find, FileSystem.find, h.resolve]
  simp only [h.get?]

lemma read [Circumstances] (h : fs.Alike fs') (path : Path) : fs'.read path = fs.read path := by
  rw [FileSystem.read, FileSystem.read, h.find]

lemma escapes (h : fs.Alike fs') (root path : Path) : fs'.escapes root path = fs.escapes root path := by
  rw [FileSystem.escapes, FileSystem.escapes, h.canonical, h.canonical]

/-- The same paths are accepted. -/
lemma targetPathIn (h : fs.Alike fs') (root path : Path) :
    TargetNet.targetPathIn fs' root path = TargetNet.targetPathIn fs root path := by
  rw [TargetNet.targetPathIn, TargetNet.targetPathIn]
  simp only [h.escapes]

end Alike

end TargetNet.FileSystem
