import Mathlib.Data.List.Basic
import Mathlib.Tactic.Common
import TargetNet.Proofs.FileSystem.Foothold

/-!
# Where targets lead

A target leads to the directory at the end of the walk along its names. Looking it up finds this
directory (`leads_of_resolve`), and so does finding its canonical location (`leads_of_canonical`),
since what is found there among the entries with short paths is found among all (`get?_of_nameable`).
-/

namespace TargetNet.FileSystem

/-- A target that leads to a directory. -/
structure Leads (fs : FileSystem) (target : Path) (base : Location) : Prop where
  nonempty : target.bytes ≠ []
  walks : ∃ n ≤ maxLinks, fs.Walks n (startOf target fs.current) target.named base
  directory : fs.get? base = some .directory

/-- What is looked up among entries that are chosen by their location. -/
lemma find?_filter_location (p : Location → Bool) (entries : List (Location × Entry))
    (l : Location) :
    (entries.filter fun e => p e.1).find? (·.1 = l) =
      if p l then entries.find? (·.1 = l) else none := by
  induction entries with
  | nil => simp
  | cons e rest ih =>
    by_cases here : e.1 = l
    · subst here
      cases kept : p e.1 with
      | true => simp [kept]
      | false => simpa [kept] using ih
    · rw [List.find?_cons_of_neg (by simpa using here), ← ih, List.filter_cons]
      split
      · rw [List.find?_cons_of_neg (by simpa using here)]
      · rfl

/-- What is looked up among the entries with short paths. -/
lemma get?_nameable (fs : FileSystem) {l : Location} (ne : l ≠ []) :
    fs.nameable.get? l =
      if (Path.slash :: Path.joinNames l).length < Path.maxPath then fs.get? l else none := by
  have chosen := find?_filter_location
    (fun l => decide ((Path.slash :: Path.joinNames l).length < Path.maxPath)) fs.entries l
  rw [get?, get?, if_neg ne, if_neg ne, nameable, chosen]
  by_cases short : (Path.slash :: Path.joinNames l).length < Path.maxPath
  · rw [decide_eq_true short, if_pos rfl, if_pos short]
  · rw [decide_eq_false short, if_neg Bool.false_ne_true, if_neg short]
    rfl

/-- What can be named is there. -/
lemma get?_of_nameable {fs : FileSystem} {l : Location} {entry : Entry}
    (h : fs.nameable.get? l = some entry) : fs.get? l = some entry := by
  by_cases root : l = []
  · rw [root] at h ⊢
    exact h
  · rw [get?_nameable fs root] at h
    split at h
    · exact h
    · cases h

/-- A slash at the end of a path leads no further. -/
lemma Walks.of_steps {fs : FileSystem} {n here goal} {path : Path}
    (w : fs.Walks n here path.steps goal) : ∃ k ≤ n, fs.Walks k here path.named goal := by
  cases slashed : path.endsInSlash with
  | false =>
    rw [Path.steps_eq_named slashed] at w
    exact ⟨n, Nat.le_refl n, w⟩
  | true =>
    have : path.steps = path.named ++ [[Path.dot]] := if_pos slashed
    rw [this] at w
    obtain ⟨k, m, mid, rfl, w, wdot⟩ := w.split
    obtain rfl := wdot.of_dots (by simp)
    exact ⟨k, by omega, w⟩

/-- A path that is found leads there by its names. -/
lemma walks_of_resolve {fs : FileSystem} {path : Path} {goal : Location}
    (h : fs.resolve path = .ok goal) :
    path.bytes ≠ [] ∧
      ∃ n ≤ maxLinks, fs.Walks n (startOf path fs.current) path.named goal := by
  obtain ⟨check, arrives⟩ := resolve_eq_ok_iff.1 h
  obtain ⟨n, le, w⟩ := walks_of_walk arrives
  obtain ⟨k, le', w⟩ := w.of_steps
  exact ⟨(Path.check_eq_ok_iff.1 check).2.1, k, le'.trans le, w⟩

/-- A path with a canonical location leads there by its names. -/
lemma walks_of_canonical {fs : FileSystem} {path : Path} {goal : Location}
    (h : fs.canonical path = .ok goal) :
    path.bytes ≠ [] ∧
      ∃ n ≤ maxLinks, fs.Walks n (startOf path fs.current) path.named goal := by
  rw [canonical] at h
  cases text : path.checkText with
  | error fault =>
    rw [text] at h
    cases h
  | ok =>
    rw [text] at h
    have nonempty : path.bytes ≠ [] := by
      intro empty
      rw [Path.checkText, empty] at text
      cases text
    obtain ⟨n, le, w⟩ := walks_of_walk h
    have w : fs.Walks n _ _ _ := w.transfer fun _ _ h _ => get?_of_nameable h
    obtain ⟨k, le', w⟩ := w.of_steps
    exact ⟨nonempty, k, le'.trans le, w⟩

/-- A path whose entry is missing has no canonical location. -/
lemma canonical_of_missing {fs : FileSystem} {path : Path} {directory : Location} {name : Name}
    {slash : Bool} (h : fs.locate path = .ok (directory, some name, slash))
    (free : fs.get? (directory ++ [name]) = none) (goal : Location) :
    fs.canonical path ≠ .ok goal := by
  intro found
  obtain ⟨-, arrives, -, last, h1, h2, -⟩ := locate_eq_ok_iff.1 h
  obtain ⟨n, -, w⟩ := walk_eq_ok_iff.1 arrives
  obtain ⟨-, m, -, w'⟩ := walks_of_canonical found
  rw [← List.dropLast_append_getLast? name last] at w'
  obtain ⟨i, j, mid, -, first, on⟩ := w'.split
  obtain rfl := first.end_unique w
  cases on with
  | dot => exact h1 rfl
  | up => exact h2 rfl
  | into _ _ he _ _ => cases free.symm.trans he
  | link _ _ hl _ => cases free.symm.trans hl

/-- A path that is resolved to a directory leads there. -/
lemma leads_of_resolve {fs : FileSystem} {target : Path} {base : Location}
    (root : fs.resolve target = .ok base) (hd : fs.get? base = some .directory) :
    fs.Leads target base :=
  ⟨(walks_of_resolve root).1, (walks_of_resolve root).2, hd⟩

/-- A path whose canonical location is a directory leads there. -/
lemma leads_of_canonical {fs : FileSystem} {target : Path} {base : Location}
    (root : fs.canonical target = .ok base) (hd : fs.get? base = some .directory) :
    fs.Leads target base :=
  ⟨(walks_of_canonical root).1, (walks_of_canonical root).2, hd⟩

/-- The paths of a target go on from where it leads. -/
lemma Leads.goesOn {fs : FileSystem} {target : Path} {base : Location} (h : fs.Leads target base)
    {names : List Name} (ne : names ≠ []) (proper : ∀ name ∈ names, Path.IsProper name) :
    fs.GoesOn (target.join (.ofNames names)) base names := by
  obtain ⟨n, le, w⟩ := h.walks
  have relative := Path.isAbsolute_ofNames proper
  refine ⟨proper, target.named, n, ?_, le, ?_⟩
  · rw [Path.named_join relative, Path.named_ofNames ne proper]
  · rwa [startOf, Path.isAbsolute_join relative h.nonempty]

end TargetNet.FileSystem
