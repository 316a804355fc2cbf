import Mathlib.Data.List.Basic
import Mathlib.Tactic.Common
import TargetNet.Proofs.FileSystem.Foothold
import TargetNet.Proofs.FileSystem.Write

/-!
# Where writes land

A write to a path that goes on from a directory by names lands below their foothold: what it changes
is there (`write_lands`), and it is inside another directory exactly if the foothold is
(`prefix_landing_iff`).
-/

namespace TargetNet.FileSystem

/-- Where a file with these names above it comes to be: below their foothold, by the names that are
left. -/
def landing (fs : FileSystem) (base : Location) (names : List Name) (last : Name) : Location :=
  (fs.foothold base names).1 ++ (fs.foothold base names).2 ++ [last]

/-- A write along names puts its file at their landing, in the directories that were missing, or it
leaves behind no more than some of these directories. -/
theorem write_lands [Circumstances] {fs after : FileSystem} (tree : fs.IsTree) {base : Location}
    (hd : fs.get? base = some .directory) {write : FileWrite} {names : List Name} {last : Name}
    (h : fs.GoesOn write.path base (names ++ [last]))
    (parent : write.path.parent? = some write.parent) {result : Except SystemError Unit}
    (hw : fs.write write = (after, result)) :
    ∃ new made, new <+: (fs.foothold base names).2 ∧
      fs.Grown (fs.foothold base names).1 new made ∧
      ((result = .ok () ∧ new = (fs.foothold base names).2 ∧
          Written made after write
            ((fs.foothold base names).1 ++ (fs.foothold base names).2) last) ∨
        (∃ fault, result = .error fault) ∧ ∀ l, after.get? l = made.get? l) := by
  obtain ⟨parent', e, -, on⟩ := h.parent
  rw [parent] at e
  cases e
  obtain ⟨new, before, grown⟩ := makeAll_grown tree hd on write.parent.components.length
  rcases write_spec hw with ⟨rfl, made, directory, name, hm, written⟩ | ⟨failed, view | view⟩
  · rw [makeDirectories, Path.upwards] at hm
    rw [hm] at grown
    obtain ⟨rfl, hd', n, le, w⟩ := h.locate grown.current grown.walks written.locate
    obtain ⟨all, rfl⟩ := grown.arrives tree hd before on.proper w le hd'
    exact ⟨new, made, before, grown, .inl ⟨rfl, all, written⟩⟩
  · exact ⟨[], fs, List.nil_prefix, .nil, .inr ⟨failed, view⟩⟩
  · exact ⟨new, _, before, grown, .inr ⟨failed, view⟩⟩

/-- A landing is inside a directory exactly if its foothold is. -/
lemma prefix_landing_iff {fs made after : FileSystem} {base inside : Location}
    (hi : fs.get? inside = some .directory) {names : List Name} {write : FileWrite} {last : Name}
    (grown : fs.Grown (fs.foothold base names).1 (fs.foothold base names).2 made)
    (written : Written made after write
      ((fs.foothold base names).1 ++ (fs.foothold base names).2) last) :
    inside <+: fs.landing base names last ↔ inside <+: (fs.foothold base names).1 := by
  refine ⟨fun h => ?_, fun h => (h.trans (List.prefix_append _ _)).trans (List.prefix_append _ _)⟩
  rcases List.prefix_concat_iff.1 h with whole | h
  · exact absurd (whole ▸ grown.keeps hi) written.notDirectory
  · rcases List.prefix_or_prefix_of_prefix h (List.prefix_append _ _) with inner | ⟨init, rfl⟩
    · exact inner
    · -- below the foothold every directory is new, and `inside` is not
      by_cases none : init = []
      · simp [none]
      · rw [grown.fresh none ((List.prefix_append_right_inj _).1 h)] at hi
        cases hi

/-- What a write changes is below the foothold of its names. -/
lemma prefix_of_write {fs after made : FileSystem} {here : Location} {new rest : List Name}
    {last : Name} (grown : fs.Grown here new made)
    (view : ∀ l, l ≠ here ++ rest ++ [last] → after.get? l = made.get? l) {l : Location}
    (h : after.get? l ≠ fs.get? l) : here <+: l := by
  by_cases e : l = here ++ rest ++ [last]
  · rw [e, List.append_assoc]
    exact List.prefix_append _ _
  · rw [view l e] at h
    rcases grown.get?_eq l with same | ⟨init, -, -, rfl, -⟩
    · exact absurd same h
    · exact List.prefix_append _ _

/-- With a file that was written, every entry is in a directory. -/
lemma Written.isTree {made after : FileSystem} {write : FileWrite} {directory : Location}
    {name : Name} (w : Written made after write directory name) (tree : made.IsTree) :
    after.IsTree := by
  have hd := (locate_eq_ok_iff.1 w.locate).2.2.1
  have ne : directory ≠ directory ++ [name] := fun e => w.notDirectory (e ▸ hd)
  have keeps {l} (h : made.get? l = some .directory) : after.get? l = some .directory := by
    rw [w.get?, if_neg]
    · exact h
    · rintro rfl
      exact w.notDirectory h
  intro l entry h
  rw [w.get?] at h
  split at h
  · rename_i e
    rw [e, List.dropLast_concat]
    exact keeps hd
  · exact keeps (tree l entry h)

/-! ## Paths that come to a stop -/

/-- A look-up that comes to something that is no directory, at its end or before it. -/
def IsStuck (fs : FileSystem) (here : Location) (steps : List Name) : Prop :=
  fs.walk maxLinks here steps = .error .notDirectory ∨
    ∃ l, fs.walk maxLinks here steps = .ok l ∧ fs.get? l ≠ some .directory

/-- A way that is stuck stays so, however it goes on. -/
lemma IsStuck.append {fs : FileSystem} {here : Location} {xs : List Name} (h : fs.IsStuck here xs)
    (ys : List Name) : fs.IsStuck here (xs ++ ys) := by
  rcases h with h | ⟨l, h, other⟩
  · exact .inl (walk_append_of_error h ys)
  · cases ys with
    | nil =>
      rw [List.append_nil]
      exact .inr ⟨l, h, other⟩
    | cons y ys =>
      obtain ⟨n, le, w⟩ := walks_of_walk h
      left
      rw [w.walk_append le]
      exact walk_blocked other

/-- It is not the dots that a look-up comes to a stop at. -/
lemma IsStuck.of_dots {fs : FileSystem} {here : Location} {xs dots : List Name}
    (h : fs.IsStuck here (xs ++ dots)) (nothing : ∀ step ∈ dots, step = [Path.dot]) :
    fs.IsStuck here xs := by
  cases arrives : fs.walk maxLinks here xs with
  | error fault =>
    rw [IsStuck, walk_append_of_error arrives dots] at h
    rcases h with h | ⟨l, h, -⟩
    · exact .inl (arrives.trans h)
    · cases h
  | ok mid =>
    by_cases hd : fs.get? mid = some .directory
    · exfalso
      -- dots after a directory lead to the directory
      have stays : fs.Walks 0 mid dots mid := by
        clear h
        induction dots with
        | nil => exact .stay
        | cons step dots ih =>
          obtain rfl := nothing step List.mem_cons_self
          exact .dot hd (ih fun other ho => nothing other (List.mem_cons_of_mem _ ho))
      obtain ⟨n, le, w⟩ := walks_of_walk arrives
      rw [IsStuck, (w.append stays).walk (by omega)] at h
      rcases h with h | ⟨l, h, other⟩
      · cases h
      · cases h
        exact other hd
    · exact .inr ⟨mid, arrives, hd⟩

/-- A directory cannot be made for want of another if it is no path, or the other is not found. -/
lemma walk_of_noEntry {fs : FileSystem} {path : Path}
    (h : fs.makeDirectory path = .error .noEntry) :
    path.check = .error .noEntry ∨
      fs.walk maxLinks (startOf path fs.current) path.named.dropLast = .error .noEntry := by
  rw [makeDirectory, locate] at h
  cases check : path.check with
  | error fault =>
    rw [check] at h
    exact .inl (congrArg Except.error (Except.error.inj h))
  | ok =>
    right
    rw [check] at h
    simp only [bind, Except.bind] at h
    rw [Path.named]
    cases arrives : fs.walk maxLinks (startOf path fs.current)
        ((Path.pieces path.bytes).filter (· ≠ [])).dropLast with
    | error fault =>
      rw [arrives] at h
      exact congrArg Except.error (Except.error.inj h)
    | ok directory =>
      exfalso
      rw [arrives] at h
      dsimp only at h
      split at h
      · rename_i e
        split at e
        · split at e
          · cases e
          · split at e <;> cases e
        · cases e
          cases h
      · rename_i place e
        split at h
        · cases h
        · split at h
          · cases h
          · split at h <;> cases h

/-- Where a path comes to a stop, no directory is made. -/
lemma makeAll_of_stuck {fs : FileSystem} {path : Path}
    (h : fs.IsStuck (startOf path fs.current) path.named) (fuel : Nat) :
    (fs.makeAll (Path.upwards.go fuel path)).1 = fs := by
  cases fuel with
  | zero => rfl
  | succ fuel =>
    rw [Path.upwards.go]
    cases e : path.parent? with
    | none => rfl
    | some parent =>
      have ne := Path.named_ne_nil e
      have found : fs.walk maxLinks (startOf path fs.current) path.named ≠ .error .noEntry := by
        intro missing
        rw [IsStuck, missing] at h
        rcases h with h | ⟨l, h, -⟩ <;> cases h
      -- only want of a parent makes the run go on, and a path that is stuck has no such want
      cases first : fs.makeDirectory path with
      | ok made =>
        exfalso
        obtain ⟨directory, name, slash, located, short, free, -⟩ := makeDirectory_eq_ok first
        obtain ⟨-, arrives, hd, hlast, h1, h2, -⟩ := locate_eq_ok_iff.1 located
        obtain ⟨n, le, w⟩ := walks_of_walk arrives
        apply found
        rw [← List.dropLast_append_getLast? name hlast, w.walk_append le]
        exact walk_missing hd ⟨h1, h2, short⟩ free
      | error fault =>
        refine makeAll_of_error first ?_ _
        rintro rfl
        rcases walk_of_noEntry first with none | missing
        · exact check_ne_noEntry ne none
        · have := walk_append_of_error missing [path.named.getLast ne]
          rw [List.dropLast_append_getLast] at this
          exact found this

end TargetNet.FileSystem
