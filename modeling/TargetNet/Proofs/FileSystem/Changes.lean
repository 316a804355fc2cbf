import Mathlib.Data.List.Basic
import Mathlib.Tactic.Common
import TargetNet.Proofs.FileSystem.Landing
import TargetNet.Proofs.FileSystem.LinkFree
import TargetNet.Proofs.FileSystem.Making

/-!
# What changes

`ChangesOnly` frames a change: it says at which places files may come and go, and on the way to which
places directories may be made, and that all else is as it was. Changes are put together
(`ChangesOnly.trans`), and a target without links stays one (`ChangesOnly.grounded`).
-/

namespace TargetNet

/-! ## The current directory -/

namespace Draft

/-- Writing to the staging file does not change the current directory. -/
lemma put_current (draft : Draft) (content : ByteArray) (mode : Nat) :
    (draft.put content mode).1.files.current = draft.files.current := by
  rw [put]
  split <;> rfl

variable [Circumstances]

/-- A stage does not change the current directory. -/
lemma step_current (write : FileWrite) (draft : Draft) (stage : WriteStage) :
    (draft.step write stage).1.files.current = draft.files.current := by
  cases stage with
  | parents => exact (FileSystem.madeFor_makeAll _ _).current
  | create =>
    rw [step]
    split <;> rfl
  | fill => exact draft.put_current _ _
  | flush => rfl
  | permit => exact draft.put_current _ _
  | publish =>
    rw [step]
    split
    · rfl
    · split
      · rename_i h
        obtain ⟨-, -, -, -, -, -, -, rfl⟩ := FileSystem.replace_eq_ok h
        rfl
      · rfl

/-- Several stages do not change the current directory. -/
lemma follow_current (write : FileWrite) (draft : Draft) (stages : List WriteStage) :
    (draft.follow write stages).1.files.current = draft.files.current := by
  induction stages generalizing draft with
  | nil => rfl
  | cons stage rest ih =>
    rw [follow]
    split
    · rfl
    · have first := step_current write draft stage
      split
      · rename_i h
        rw [h] at first
        exact (ih _).trans first
      · rename_i h
        rw [h] at first
        exact first

end Draft

namespace FileSystem

/-- A write does not move the place where relative paths start. -/
lemma write_current [Circumstances] (fs : FileSystem) (write : FileWrite) :
    (fs.write write).1.current = fs.current := by
  have stays := Draft.follow_current write ⟨fs, none⟩ WriteStage.all
  rw [FileSystem.write]
  split
  · rename_i h
    rw [h] at stays
    exact stays
  · rename_i h
    rw [h] at stays
    rw [Draft.discard]
    split <;> exact stays

/-! ## Changes at some places -/

/-- What may become of a location: it stays as it was, a file comes or goes at one of the places, or
a directory is made on the way to one of the others. -/
inductive MayChange (fs after : FileSystem) (places made : List Location) (l : Location) : Prop where
  | same :
    after.get? l = fs.get? l →
    MayChange fs after places made l
  | replaced :
    l ∈ places →
    (∀ entry, fs.get? l = some entry → entry.IsFile) →
    (∀ held, after.get? l ≠ some (.link held)) →
    MayChange fs after places made l
  | made {place} :
    place ∈ made →
    l <+: place →
    fs.get? l = none →
    after.get? l = some .directory →
    MayChange fs after places made l

/-- Nothing changes but at some places, and on the way to the places where something is made. -/
structure ChangesOnly (fs after : FileSystem) (places made : List Location) : Prop where
  current : after.current = fs.current
  each : ∀ l, MayChange fs after places made l

namespace ChangesOnly

variable {fs mid after : FileSystem} {places made places' made' : List Location}

lemma refl (fs : FileSystem) (places made : List Location) : ChangesOnly fs fs places made :=
  ⟨rfl, fun _ => .same rfl⟩

/-- A place that is not among those of a change, nor on the way to them, stays as it was. -/
lemma same (c : ChangesOnly fs after places made) {l : Location} (other : l ∉ places)
    (off : ∀ place ∈ made, ¬ l <+: place) : after.get? l = fs.get? l := by
  cases c.each l with
  | same e => exact e
  | replaced mem _ _ => exact absurd mem other
  | made mem before _ _ => exact absurd before (off _ mem)

lemma get?_eq (c : ChangesOnly fs after [] []) (l : Location) : after.get? l = fs.get? l :=
  c.same (by simp) (by simp)

/-- What is there stays, but for the places of the change. -/
lemma keeps (c : ChangesOnly fs after places made) {l : Location} (other : l ∉ places)
    {entry : Entry} (h : fs.get? l = some entry) : after.get? l = some entry := by
  cases c.each l with
  | same e => exact e.trans h
  | replaced mem _ _ => exact absurd mem other
  | made _ _ none _ => cases h.symm.trans none

/-- Directories and links stay. -/
lemma keeps_other (c : ChangesOnly fs after places made) {l : Location} {entry : Entry}
    (h : fs.get? l = some entry) (other : ¬ entry.IsFile) : after.get? l = some entry := by
  cases c.each l with
  | same e => exact e.trans h
  | replaced _ file _ => exact absurd (file entry h) other
  | made _ _ none _ => cases h.symm.trans none

/-- Of two changes, one after the other, the places come together. -/
lemma trans (c : ChangesOnly fs mid places made) (c' : ChangesOnly mid after places' made') :
    ChangesOnly fs after (places ++ places') (made ++ made') := by
  refine ⟨c'.current.trans c.current, fun l => ?_⟩
  cases c.each l with
  | same e =>
    cases c'.each l with
    | same e' => exact .same (e'.trans e)
    | replaced mem file noLink =>
      exact .replaced (List.mem_append_right _ mem) (fun entry h => file entry (e.trans h)) noLink
    | made mem before missing directory =>
      exact .made (List.mem_append_right _ mem) before (e.symm.trans missing) directory
  | replaced mem file noLink =>
    refine .replaced (List.mem_append_left _ mem) file fun held link => ?_
    cases c'.each l with
    | same e' => exact noLink held (e'.symm.trans link)
    | replaced _ _ noLink' => exact noLink' held link
    | made _ _ _ directory => cases link.symm.trans directory
  | made mem before missing directory =>
    -- what the first change makes, the second one keeps
    exact .made (List.mem_append_left _ mem) before missing
      (c'.keeps_other directory Entry.not_isFile_directory)

/-- A target without links stays one. -/
lemma grounded (c : ChangesOnly fs after places made) {target : Path} {base : Location}
    (g : fs.Grounded target base) (tree : after.IsTree) : after.Grounded target base := by
  obtain ⟨nonempty, ⟨n, le, w⟩, hd⟩ := g.leads
  have stays := c.keeps_other hd Entry.not_isFile_directory
  refine ⟨tree, ⟨nonempty, ⟨n, le, ?_⟩, stays⟩, ?_⟩
  · rw [c.current]
    refine w.transfer ?_
    rintro l entry h (other | rfl)
    · exact c.keeps_other h other
    · cases hd.symm.trans h
      exact stays
  · intro l held inside link
    cases c.each l with
    | same e => exact g.free l held inside (e.symm.trans link)
    | replaced _ _ noLink => exact noLink held link
    | made _ _ _ directory => cases link.symm.trans directory

/-- What a path leads to is found as before, unless it is at one of the places. -/
lemma find_eq (c : ChangesOnly fs after places made) {path : Path} {entry : Entry}
    (h : fs.find path = .ok entry)
    (other : ∀ goal, fs.resolve path = .ok goal → goal ∉ places) :
    after.find path = .ok entry := by
  obtain ⟨goal, found, there⟩ := find_eq_ok_iff.1 h
  obtain ⟨check, arrives⟩ := resolve_eq_ok_iff.1 found
  obtain ⟨n, le, w⟩ := walks_of_walk arrives
  have stays := c.keeps (other goal found) there
  refine find_eq_ok_iff.2 ⟨goal, resolve_eq_ok_iff.2 ⟨check, ?_⟩, stays⟩
  rw [c.current]
  refine (w.transfer ?_).walk le
  -- what the walk comes through is no file, and its goal is not at one of the places
  rintro l entry' h' (h'' | rfl)
  · exact c.keeps_other h' h''
  · exact c.keeps (other l found) h'

/-- The text that a path leads to is read as before, unless it is at one of the places. -/
lemma readText_eq [Circumstances] (c : ChangesOnly fs after places made) {path : Path} {text : String}
    (h : fs.readText path = .ok text)
    (other : ∀ goal, fs.resolve path = .ok goal → goal ∉ places) :
    after.readText path = .ok text := by
  obtain ⟨mode, found, readable⟩ := read_eq_ok_iff.1 (readText_eq_ok_iff.1 h)
  exact readText_eq_ok_iff.2 (read_eq_ok_iff.2 ⟨mode, c.find_eq found other, readable⟩)

/-- A change that puts back what is there, and makes directories on the way to it only, changes
nothing. -/
lemma of_same {place : Location} (c : ChangesOnly fs after [place] [place]) (tree : fs.IsTree)
    {entry : Entry} (there : fs.get? place = some entry) (same : after.get? place = some entry) :
    ChangesOnly fs after [] [] := by
  refine ⟨c.current, fun l => ?_⟩
  cases c.each l with
  | same e => exact .same e
  | replaced mem _ _ =>
    rw [List.mem_singleton.1 mem]
    exact .same (same.trans there.symm)
  | made mem before missing directory =>
    -- what is on the way to something that is there is not missing
    exfalso
    obtain rfl := List.mem_singleton.1 mem
    obtain ⟨rest, rfl⟩ := before
    by_cases none : rest = []
    · rw [none, List.append_nil, missing] at there
      cases there
    · rw [tree.directory none there] at missing
      cases missing

end ChangesOnly

/-- A tree stays one when something other than a directory comes, goes or changes at a place where
an entry was. -/
lemma IsTree.of_view {fs after : FileSystem} (tree : fs.IsTree) {place : Location}
    {entry : Entry} {left : Option Entry} (there : fs.get? place = some entry)
    (other : entry ≠ .directory)
    (view : ∀ l, after.get? l = if l = place then left else fs.get? l) : after.IsTree := by
  have keeps {l} (h : fs.get? l = some .directory) : after.get? l = some .directory := by
    rw [view, if_neg]
    · exact h
    · rintro rfl
      rw [there] at h
      exact other (Option.some.inj h)
  intro l entry' h
  rw [view] at h
  split at h
  · rename_i e
    exact keeps (tree l entry (e ▸ there))
  · exact keeps (tree l entry' h)

end FileSystem
end TargetNet
