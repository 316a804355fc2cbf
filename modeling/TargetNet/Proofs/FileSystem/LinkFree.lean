import Mathlib.Data.List.Basic
import Mathlib.Tactic.Common
import TargetNet.Proofs.FileSystem.Leads
import TargetNet.Proofs.FileSystem.Write
import TargetNet.Proofs.Path.Relative

/-!
# Directories without links

Below a directory without links, names lead to the place that they spell (`LinkFree.walks_end`), so
looking up a path of a target comes down to what is at the places on its way (`Grounded.resolve_join`).
Two file systems that have the same there find the same (`Grounded.resolve_congr`).
-/

namespace TargetNet

/-- A path in its canonical spelling, with names that are short enough. -/
structure Path.IsPlain (path : Path) : Prop where
  relative : path.relative = .ok path
  short : ∀ name ∈ path.named, name.length ≤ Path.maxName

namespace Path.IsPlain

variable {path : Path}

/-- A plain path is spelled by its names. -/
lemma spelled (plain : path.IsPlain) :
    path.named ≠ [] ∧ (∀ name ∈ path.named, IsProper name) ∧ ofNames path.named = path := by
  obtain ⟨names, ne, proper, e⟩ := relative_eq_ok plain.relative
  have named : path.named = names := by rw [e, named_ofNames ne proper]
  rw [named]
  exact ⟨ne, proper, e.symm⟩

lemma isName (plain : path.IsPlain) {name : Name} (h : name ∈ path.named) : IsName name :=
  have proper := plain.spelled.2.1 name h
  ⟨proper.ne_dot, proper.ne_dots, plain.short name h⟩

lemma concat (plain : path.IsPlain) : ∃ init last, path.named = init ++ [last] :=
  ⟨_, _, (List.dropLast_append_getLast plain.spelled.1).symm⟩

lemma isAbsolute (plain : path.IsPlain) : path.isAbsolute = false := by
  rw [← plain.spelled.2.2]
  exact isAbsolute_ofNames plain.spelled.2.1

lemma named_join (plain : path.IsPlain) (target : Path) :
    (target.join path).named = target.named ++ path.named :=
  Path.named_join plain.isAbsolute

/-- A plain path joined to a target has no slash at its end. -/
lemma endsInSlash_join (plain : path.IsPlain) (target : Path) :
    (target.join path).endsInSlash = false := by
  have nonempty : path.bytes ≠ [] := by
    intro empty
    have := plain.spelled.1
    rw [named, empty] at this
    exact this rfl
  rw [Path.endsInSlash_join nonempty, ← plain.spelled.2.2]
  exact endsInSlash_ofNames plain.spelled.2.1

end Path.IsPlain

namespace FileSystem

/-- There are no links in a directory, nor below it. -/
def LinkFree (fs : FileSystem) (base : Location) : Prop :=
  ∀ l held, base <+: l → fs.get? l ≠ some (.link held)

section

variable {fs : FileSystem} {base here goal : Location} {names : List Name} {n : Nat}

/-- A file system is a tree if every entry has its directory. -/
lemma isTree_of_entries (h : ∀ e ∈ fs.entries, fs.get? e.1.dropLast = some .directory) :
    fs.IsTree := by
  intro l entry there
  by_cases root : l = []
  · rw [root]
    rfl
  · exact h _ (mem_of_get? root there)

/-- There are no links below a location if no entry there is one. -/
lemma linkFree_of_entries (h : ∀ e ∈ fs.entries, base <+: e.1 → ¬ e.2.IsLink) :
    fs.LinkFree base := by
  intro l held inside link
  by_cases root : l = []
  · rw [root] at link
    cases link
  · exact h _ (mem_of_get? root link) inside ⟨held, rfl⟩

/-- Without links, names lead to the place that they spell, and there is something. -/
lemma LinkFree.walks_end (free : fs.LinkFree base) (inside : base <+: here)
    (proper : ∀ name ∈ names, Path.IsProper name) (w : fs.Walks n here names goal) :
    goal = here ++ names ∧ (names ≠ [] → ∃ entry, fs.get? goal = some entry) := by
  induction names generalizing here n with
  | nil =>
    cases w
    exact ⟨(List.append_nil _).symm, fun ne => absurd rfl ne⟩
  | cons name rest ih =>
    have first := proper name List.mem_cons_self
    have others (other : Name) (ho : other ∈ rest) := proper other (List.mem_cons_of_mem _ ho)
    cases w with
    | dot => exact absurd rfl first.ne_dot
    | up => exact absurd rfl first.ne_dots
    | link _ _ hl _ => exact absurd hl (free _ _ (inside.trans (List.prefix_append _ _)))
    | into _ _ he _ w =>
      obtain ⟨e, there⟩ := ih (inside.trans (List.prefix_append _ _)) others w
      rw [List.append_assoc, List.singleton_append] at e
      refine ⟨e, fun _ => ?_⟩
      cases rest with
      | nil =>
        rw [e]
        exact ⟨_, he⟩
      | cons next rest => exact there (by simp)

/-- Without links, a foothold and the names that are left spell the place of all names. -/
lemma LinkFree.foothold (free : fs.LinkFree base) (inside : base <+: here)
    (hd : fs.get? here = some .directory) (proper : ∀ name ∈ names, Path.IsProper name) :
    (fs.foothold here names).1 ++ (fs.foothold here names).2 = here ++ names := by
  obtain ⟨used, n, split, w, -⟩ := exists_foothold hd names
  have proper' (name : Name) (h : name ∈ used) :=
    proper name (split ▸ List.mem_append_left _ h)
  rw [(free.walks_end inside proper' w).1, List.append_assoc, ← split]

/-- Without links, it does not matter how many may be followed. -/
lemma LinkFree.walk_eq (free : fs.LinkFree base) (inside : base <+: here)
    (proper : ∀ name ∈ names, Path.IsProper name) (links : Nat) :
    fs.walk links here names = fs.walk 0 here names := by
  induction names generalizing here with
  | nil => rw [walk_nil, walk_nil]
  | cons name rest ih =>
    have first := proper name List.mem_cons_self
    have on : fs.walk links (here ++ [name]) rest = fs.walk 0 (here ++ [name]) rest :=
      ih (inside.trans (List.prefix_append _ _))
        fun other ho => proper other (List.mem_cons_of_mem _ ho)
    rw [walk_cons, walk_cons, if_neg first.ne_dot, if_neg first.ne_dots, if_neg first.ne_dot,
      if_neg first.ne_dots]
    cases e : fs.get? (here ++ [name]) with
    | none => rfl
    | some entry =>
      cases entry with
      | link held => exact absurd e (free _ _ (inside.trans (List.prefix_append _ _)))
      | file => simp only [on]
      | directory => simp only [on]

/-- What a look-up that follows no link finds depends on the places on its way. -/
lemma walk_congr {fs' : FileSystem} (proper : ∀ name ∈ names, Path.IsProper name)
    (same : ∀ init, init <+: names → fs'.get? (here ++ init) = fs.get? (here ++ init)) :
    fs'.walk 0 here names = fs.walk 0 here names := by
  induction names generalizing here with
  | nil => rw [walk_nil, walk_nil]
  | cons name rest ih =>
    have first := proper name List.mem_cons_self
    have start := same [] List.nil_prefix
    rw [List.append_nil] at start
    have next := same [name] (List.prefix_append [name] rest)
    have on : fs'.walk 0 (here ++ [name]) rest = fs.walk 0 (here ++ [name]) rest := by
      refine ih (fun other ho => proper other (List.mem_cons_of_mem _ ho)) fun init h => ?_
      rw [List.append_assoc]
      exact same ([name] ++ init) ((List.prefix_append_right_inj [name]).2 h)
    have directory : fs'.isDirectoryAt here = fs.isDirectoryAt here := by
      rw [isDirectoryAt, isDirectoryAt, start]
    rw [walk_cons, walk_cons, directory, next, on, if_neg first.ne_dot, if_neg first.ne_dots,
      if_neg first.ne_dot, if_neg first.ne_dots]

/-- Above what is there, there are directories. -/
lemma IsTree.directory (tree : fs.IsTree) {entry : Entry} (ne : names ≠ [])
    (h : fs.get? (here ++ names) = some entry) : fs.get? here = some .directory := by
  induction names using List.reverseRecOn generalizing entry with
  | nil => exact absurd rfl ne
  | append_singleton names last ih =>
    have above := tree _ _ h
    rw [← List.append_assoc, List.dropLast_concat] at above
    by_cases none : names = []
    · rwa [none, List.append_nil] at above
    · exact ih none above

/-- The names on the way to an entry that is no link lead to it. -/
lemma IsTree.walks (tree : fs.IsTree) (isName : ∀ name ∈ names, Path.IsName name) {entry : Entry}
    (h : fs.get? (here ++ names) = some entry) (other : ¬ entry.IsLink) :
    fs.Walks 0 here names (here ++ names) := by
  induction names generalizing here with
  | nil =>
    rw [List.append_nil]
    exact .stay
  | cons name rest ih =>
    have hd := tree.directory (List.cons_ne_nil name rest) h
    rw [← List.singleton_append, ← List.append_assoc] at h ⊢
    have on := ih (fun other ho => isName other (List.mem_cons_of_mem _ ho)) h
    have first := isName name List.mem_cons_self
    cases rest with
    | nil =>
      rw [List.append_nil] at h
      exact .into hd first h other on
    | cons next rest =>
      exact .into hd first (tree.directory (by simp) h) (by rintro ⟨held, ⟨⟩⟩) on

end

/-- A target that leads to a directory of a tree, with no links in it. -/
structure Grounded (fs : FileSystem) (target : Path) (base : Location) : Prop where
  tree : fs.IsTree
  leads : fs.Leads target base
  free : fs.LinkFree base

namespace Grounded

variable {fs : FileSystem} {target path : Path} {base : Location}

/-- A plain path below the target is looked up from where the target is. -/
lemma startOf_join (g : fs.Grounded target base) (plain : path.IsPlain) :
    startOf (target.join path) fs.current = startOf target fs.current := by
  rw [startOf, startOf, Path.isAbsolute_join plain.isAbsolute g.leads.nonempty]

/-- Walks along a path of the target come to its place. -/
lemma walks_end (g : fs.Grounded target base) (plain : path.IsPlain) {n : Nat} {goal : Location}
    (w : fs.Walks n (startOf (target.join path) fs.current) (target.join path).named goal) :
    goal = base ++ path.named ∧ ∃ entry, fs.get? goal = some entry := by
  obtain ⟨m, -, reached⟩ := g.leads.walks
  rw [g.startOf_join plain, plain.named_join] at w
  obtain ⟨i, j, mid, -, first, rest⟩ := w.split
  obtain rfl := first.end_unique reached
  obtain ⟨e, there⟩ := g.free.walks_end List.prefix_rfl plain.spelled.2.1 rest
  exact ⟨e, there plain.spelled.1⟩

/-- Looking up a path of the target comes down to what is on its way. -/
lemma resolve_join (g : fs.Grounded target base) (plain : path.IsPlain)
    (check : (target.join path).check = .ok ()) :
    fs.resolve (target.join path) = fs.walk 0 base path.named := by
  obtain ⟨n, le, w⟩ := g.leads.walks
  rw [resolve, check, Path.steps_eq_named (plain.endsInSlash_join target), plain.named_join,
    g.startOf_join plain]
  exact (w.walk_append le path.named).trans
    (g.free.walk_eq List.prefix_rfl plain.spelled.2.1 _)

/-- A plain path leads to the location that it spells. -/
lemma resolve_eq_ok (g : fs.Grounded target base) (plain : path.IsPlain) {location : Location}
    (h : fs.resolve (target.join path) = .ok location) :
    location = base ++ path.named ∧ ∃ entry, fs.get? location = some entry := by
  obtain ⟨-, n, -, w⟩ := walks_of_resolve h
  exact g.walks_end plain w

/-- A plain path leads to the location that it spells if something is there. -/
lemma resolve_of_some (g : fs.Grounded target base) (plain : path.IsPlain)
    (check : (target.join path).check = .ok ()) {entry : Entry}
    (h : fs.get? (base ++ path.named) = some entry) :
    fs.resolve (target.join path) = .ok (base ++ path.named) := by
  have other : ¬ entry.IsLink := by
    rintro ⟨held, rfl⟩
    exact g.free _ held (List.prefix_append _ _) h
  rw [g.resolve_join plain check]
  exact (g.tree.walks (fun _ => plain.isName) h other).walk (Nat.le_refl 0)

/-- The parent of a plain path is reached without following a link. -/
lemma walks_parent (g : fs.Grounded target base) (plain : path.IsPlain) {init : List Name}
    {last : Name} (split : path.named = init ++ [last])
    (hd : fs.get? (base ++ init) = some .directory) : fs.Walks 0 base init (base ++ init) := by
  refine g.tree.walks (fun name h => plain.isName ?_) hd ?_
  · rw [split]
    exact List.mem_append_left _ h
  · rintro ⟨held, ⟨⟩⟩

/-- The place of an entry of the target is in the directory that its other names lead to. -/
lemma locate_join (g : fs.Grounded target base) (plain : path.IsPlain)
    (check : (target.join path).check = .ok ()) {init : List Name} {last : Name}
    (split : path.named = init ++ [last]) (hd : fs.get? (base ++ init) = some .directory) :
    fs.locate (target.join path) = .ok (base ++ init, some last, false) := by
  obtain ⟨n, le, w⟩ := g.leads.walks
  have on := g.walks_parent plain split hd
  obtain ⟨ne_dot, ne_dots, -⟩ : Path.IsName last := plain.isName (by simp [split])
  have named : (target.join path).named = target.named ++ init ++ [last] := by
    rw [plain.named_join, split, List.append_assoc]
  refine locate_eq_ok_iff.2 ⟨check, ?_, hd, ?_, ne_dot, ne_dots, plain.endsInSlash_join target⟩
  · rw [named, List.dropLast_concat, g.startOf_join plain]
    exact (w.append on).walk le
  · rw [named, List.getLast?_concat]

/-- If nothing is there, but its directory is, then the path has no entry. -/
lemma resolve_of_none (g : fs.Grounded target base) (plain : path.IsPlain)
    (check : (target.join path).check = .ok ()) {init : List Name} {last : Name}
    (split : path.named = init ++ [last]) (hd : fs.get? (base ++ init) = some .directory)
    (h : fs.get? (base ++ path.named) = none) :
    fs.resolve (target.join path) = .error .noEntry := by
  obtain ⟨-, -, short⟩ : Path.IsName last := plain.isName (by simp [split])
  refine resolve_of_missing (g.locate_join plain check split hd) short ?_
  rwa [List.append_assoc, ← split]

/-- If the path has no entry, nothing is there. -/
lemma get?_of_noEntry (g : fs.Grounded target base) (plain : path.IsPlain)
    (h : fs.resolve (target.join path) = .error .noEntry) :
    fs.get? (base ++ path.named) = none := by
  by_contra some
  obtain ⟨entry, there⟩ := Option.ne_none_iff_exists'.1 some
  have named : (target.join path).named ≠ [] := by
    rw [plain.named_join]
    exact fun e => plain.spelled.1 (List.append_eq_nil_iff.1 e).2
  cases check : (target.join path).check with
  | error fault =>
    rw [resolve_of_check check] at h
    cases h
    exact check_ne_noEntry named check
  | ok =>
    rw [g.resolve_of_some plain check there] at h
    cases h

/-- Where two file systems have the same on the way of a path, they find the same. -/
lemma resolve_congr {fs' : FileSystem} (g : fs.Grounded target base)
    (g' : fs'.Grounded target base) (plain : path.IsPlain)
    (same : ∀ init, init <+: path.named → fs'.get? (base ++ init) = fs.get? (base ++ init)) :
    fs'.resolve (target.join path) = fs.resolve (target.join path) := by
  cases check : (target.join path).check with
  | error fault => rw [resolve_of_check check, resolve_of_check check]
  | ok =>
    rw [g.resolve_join plain check, g'.resolve_join plain check]
    exact walk_congr plain.spelled.2.1 same

end Grounded
end FileSystem
end TargetNet
