import Mathlib.Data.List.Basic
import Mathlib.Tactic.Common
import TargetNet.Proofs.FileSystem.MakeDirectories

/-!
# Footholds

The foothold of some names is the last directory that is there on the way along them, together with
the names that are left. Making directories starts from it: what is made is one directory within the
other, below the foothold, by the names that are left (`Grown`, `makeAll_grown`).
-/

namespace TargetNet.FileSystem

/-- Every entry is in a directory. -/
def IsTree (fs : FileSystem) : Prop :=
  ∀ l entry, fs.get? l = some entry → fs.get? l.dropLast = some .directory

/-- The last directory on the way along some names, and the names that lead on from it to none. -/
def foothold (fs : FileSystem) (here : Location) : List Name → Location × List Name
  | [] => (here, [])
  | name :: rest =>
    match fs.walk maxLinks here [name] with
    | .ok next => if fs.isDirectoryAt next then fs.foothold next rest else (here, name :: rest)
    | .error _ => (here, name :: rest)

/-- A name that leads to a directory is passed. -/
lemma foothold_cons {fs : FileSystem} {n here name next} (w : fs.Walks n here [name] next)
    (le : n ≤ maxLinks) (hd : fs.get? next = some .directory) (rest : List Name) :
    fs.foothold here (name :: rest) = fs.foothold next rest := by
  rw [foothold, w.walk le]
  exact if_pos (isDirectoryAt_iff.2 hd)

/-- A name of no entry is left. -/
lemma foothold_of_missing {fs : FileSystem} {here : Location} {name : Name}
    (h : fs.get? (here ++ [name]) = none) (proper : Path.IsProper name) :
    fs.foothold here [name] = (here, [name]) := by
  rw [foothold]
  split
  · rename_i next arrives
    obtain ⟨n, -, w⟩ := walks_of_walk arrives
    cases w with
    | dot => exact absurd rfl proper.ne_dot
    | up => exact absurd rfl proper.ne_dots
    | into _ _ he _ _ =>
      rw [h] at he
      cases he
    | link _ _ hl _ =>
      rw [h] at hl
      cases hl
  · rfl

/-- How the names of a foothold are come by: those that are used up lead to it. -/
lemma exists_foothold {fs : FileSystem} {here : Location} (hd : fs.get? here = some .directory)
    (names : List Name) :
    ∃ used n, names = used ++ (fs.foothold here names).2 ∧
      fs.Walks n here used (fs.foothold here names).1 ∧
      fs.get? (fs.foothold here names).1 = some .directory := by
  induction names generalizing here with
  | nil => exact ⟨[], 0, rfl, .stay, hd⟩
  | cons name rest ih =>
    rw [foothold]
    split
    · rename_i next arrives
      split
      · rename_i hnext
        obtain ⟨n, -, w⟩ := walks_of_walk arrives
        obtain ⟨used, m, e, on, last⟩ := ih (isDirectoryAt_iff.1 hnext)
        exact ⟨name :: used, n + m, congrArg (name :: ·) e, w.append on, last⟩
      · exact ⟨[], 0, rfl, .stay, hd⟩
    · exact ⟨[], 0, rfl, .stay, hd⟩

/-- Names that lead to a directory have it as their foothold. -/
lemma foothold_of_walks {fs : FileSystem} {n here names goal} (w : fs.Walks n here names goal)
    (le : n ≤ maxLinks) (hd : fs.get? goal = some .directory) (rest : List Name) :
    fs.foothold here (names ++ rest) = fs.foothold goal rest := by
  induction names generalizing here n with
  | nil =>
    cases w
    rfl
  | cons name names ih =>
    have w : fs.Walks n here ([name] ++ names) goal := w
    obtain ⟨k, m, next, rfl, first, on⟩ := w.split
    have hnext : fs.get? next = some .directory := by
      cases names with
      | nil => cases on; exact hd
      | cons => exact on.isDirectory_of_cons
    rw [List.cons_append, foothold_cons first (by omega) hnext]
    exact ih on (by omega)

/-- Where names are left, more names are left as well. -/
lemma foothold_append {fs : FileSystem} {here : Location} {names : List Name}
    (left : (fs.foothold here names).2 ≠ []) (rest : List Name) :
    fs.foothold here (names ++ rest) =
      ((fs.foothold here names).1, (fs.foothold here names).2 ++ rest) := by
  induction names generalizing here with
  | nil => exact absurd rfl left
  | cons name names ih =>
    rw [foothold] at left ⊢
    rw [List.cons_append, foothold]
    cases arrives : fs.walk maxLinks here [name] with
    | error fault => rfl
    | ok next =>
      rw [arrives] at left
      by_cases hd : fs.isDirectoryAt next = true
      · simp only [hd, if_true] at left ⊢
        exact ih left
      · simp only [hd] at left ⊢
        rfl

/-! ## Directories within each other -/

/-- A file system with new directories, each in the one before, the first one in `here`. -/
inductive Grown (fs : FileSystem) (here : Location) : List Name → FileSystem → Prop where
  | nil :
    Grown fs here [] fs
  | snoc {names name made} :
    Grown fs here names made →
    made.get? (here ++ names ++ [name]) = none →
    Grown fs here (names ++ [name]) (made.set (here ++ names ++ [name]) .directory)

namespace Grown

variable {fs made : FileSystem} {here : Location} {names : List Name}

/-- Without names, nothing is new. -/
lemma eq_of_nil (g : Grown fs here [] made) : made = fs := by
  generalize e : ([] : List Name) = names at g
  cases g with
  | nil => rfl
  | snoc => simp at e

/-- New directories do not change the current one. -/
lemma current (g : Grown fs here names made) : made.current = fs.current := by
  induction g with
  | nil => rfl
  | snoc _ _ ih => exact ih

/-- What was there stays. -/
lemma keeps (g : Grown fs here names made) {l : Location} {entry : Entry}
    (h : fs.get? l = some entry) : made.get? l = some entry := by
  induction g with
  | nil => exact h
  | @snoc names name made _ fresh ih =>
    have ne : l ≠ here ++ names ++ [name] := by
      rintro rfl
      rw [ih] at fresh
      cases fresh
    rw [get?_set_of_ne _ ne]
    exact ih

/-- At every location there is what was there before or, where nothing was, a new directory. -/
lemma get?_eq (g : Grown fs here names made) (l : Location) :
    made.get? l = fs.get? l ∨
      ∃ init, init ≠ [] ∧ init <+: names ∧ l = here ++ init ∧ fs.get? l = none ∧
        made.get? l = some .directory := by
  induction g with
  | nil => exact .inl rfl
  | @snoc names name made g fresh ih =>
    by_cases e : l = here ++ names ++ [name]
    · right
      have missing : fs.get? l = none := by
        by_contra some
        obtain ⟨entry, h⟩ := Option.ne_none_iff_exists'.1 some
        rw [e] at h
        rw [g.keeps h] at fresh
        cases fresh
      refine ⟨names ++ [name], by simp, List.prefix_rfl, by rw [e, List.append_assoc], missing, ?_⟩
      rw [e]
      exact get?_set_self _ (by simp) _
    · rw [get?_set_of_ne _ e]
      rcases ih with h | ⟨init, ne, before, e', missing, h⟩
      · exact .inl h
      · exact .inr ⟨init, ne, before.trans (List.prefix_append _ _), e', missing, h⟩

/-- All names lead to directories. -/
lemma directory (g : Grown fs here names made) (hd : fs.get? here = some .directory)
    {init : List Name} (h : init <+: names) : made.get? (here ++ init) = some .directory := by
  induction g with
  | nil =>
    rw [List.prefix_nil.1 h, List.append_nil]
    exact hd
  | @snoc names name made g fresh ih =>
    rcases List.prefix_concat_iff.1 h with rfl | h
    · rw [← List.append_assoc]
      exact get?_set_self _ (by simp) _
    · rw [get?_set_of_ne]
      · exact ih h
      · intro e
        rw [List.append_assoc, List.append_cancel_left_eq] at e
        have := h.length_le
        rw [e, List.length_append, List.length_singleton] at this
        omega

/-- Where the new directories are, nothing was before. -/
lemma fresh (g : Grown fs here names made) {init : List Name} (ne : init ≠ [])
    (h : init <+: names) : fs.get? (here ++ init) = none := by
  induction g with
  | nil => exact absurd (List.prefix_nil.1 h) ne
  | @snoc names name made g fresh ih =>
    rcases List.prefix_concat_iff.1 h with rfl | h
    · by_contra some
      obtain ⟨entry, h⟩ := Option.ne_none_iff_exists'.1 some
      rw [← List.append_assoc] at h
      rw [g.keeps h] at fresh
      cases fresh
    · exact ih h

/-- New directories keep a tree one. -/
lemma isTree (g : Grown fs here names made) (tree : fs.IsTree)
    (hd : fs.get? here = some .directory) : made.IsTree := by
  intro l entry h
  rcases g.get?_eq l with e | ⟨init, ne, before, rfl, -, -⟩
  · rw [e] at h
    exact g.keeps (tree l entry h)
  · obtain ⟨first, last, rfl⟩ : ∃ first last, init = first ++ [last] :=
      ⟨_, _, (List.dropLast_append_getLast ne).symm⟩
    rw [← List.append_assoc, List.dropLast_concat]
    exact g.directory hd ((List.prefix_append _ _).trans before)

/-- Every way that led somewhere still does. -/
lemma walks (g : Grown fs here names made) {n from' steps goal} (w : fs.Walks n from' steps goal) :
    made.Walks n from' steps goal :=
  w.transfer fun _ _ h _ => g.keeps h

/-- Whoever walks on into new directories comes to the last of them: all names are used up. -/
lemma walks_below (g : Grown fs here names made) (tree : fs.IsTree) (ne : names ≠ [])
    {n init rest goal} (before : init <+: names) (within : names <+: init ++ rest)
    (proper : ∀ name ∈ rest, Path.IsProper name) (w : made.Walks n (here ++ init) rest goal) :
    names = init ++ rest ∧ goal = here ++ init ++ rest := by
  induction rest generalizing init n with
  | nil =>
    cases w
    rw [List.append_nil] at within
    exact ⟨by rw [List.append_nil]; exact within.eq_of_length_le before.length_le,
      (List.append_nil _).symm⟩
  | cons step rest ih =>
    have first := proper step List.mem_cons_self
    have on (h : init ++ [step] <+: names)
        (w : made.Walks n (here ++ (init ++ [step])) rest goal) :
        names = init ++ step :: rest ∧ goal = here ++ init ++ step :: rest := by
      have := ih h (by rwa [List.append_assoc, List.singleton_append])
        (fun name hn => proper name (List.mem_cons_of_mem _ hn)) w
      simpa using this
    have entered {entry} (h : made.get? (here ++ init ++ [step]) = some entry) :
        init ++ [step] <+: names ∧ entry = .directory := by
      rcases g.get?_eq (here ++ init ++ [step]) with e | ⟨other, -, ho, eo, -, hd⟩
      · -- it was there before, so its directory was, and nothing was made on the way to it
        rw [h] at e
        have was := tree _ _ e.symm
        rw [List.dropLast_concat] at was
        exfalso
        by_cases some : init = []
        · subst some
          obtain ⟨name, names, rfl⟩ := List.exists_cons_of_ne_nil ne
          obtain ⟨rfl, -⟩ := List.cons_prefix_cons.1 within
          have := g.fresh (List.cons_ne_nil name []) (List.prefix_append [name] names)
          rw [List.append_nil, this] at e
          cases e
        · rw [g.fresh some before] at was
          cases was
      · rw [List.append_assoc, List.append_cancel_left_eq] at eo
        rw [h] at hd
        exact ⟨eo ▸ ho, Option.some.inj hd⟩
    cases w with
    | dot => exact absurd rfl first.ne_dot
    | up => exact absurd rfl first.ne_dots
    | into _ _ he _ w =>
      rw [List.append_assoc] at w
      exact on (entered he).1 w
    | link _ _ hl _ => cases (entered hl).2

/-- Whoever walks all names to a directory comes to the last of the new directories, and no names
are left. -/
lemma arrives {fs made : FileSystem} {base goal : Location} {names new : List Name} {n : Nat}
    (g : Grown fs (fs.foothold base names).1 new made) (tree : fs.IsTree)
    (hd : fs.get? base = some .directory) (before : new <+: (fs.foothold base names).2)
    (proper : ∀ name ∈ names, Path.IsProper name) (w : made.Walks n base names goal)
    (le : n ≤ maxLinks) (hgoal : made.get? goal = some .directory) :
    new = (fs.foothold base names).2 ∧
      goal = (fs.foothold base names).1 ++ (fs.foothold base names).2 := by
  -- with nothing made, the names led to a directory before, and none of them is left
  by_cases none : new = []
  · subst none
    rw [g.eq_of_nil] at w hgoal
    have := foothold_of_walks w le hgoal []
    rw [List.append_nil] at this
    rw [this, foothold]
    exact ⟨rfl, (List.append_nil _).symm⟩
  · obtain ⟨used, m, split, reached, -⟩ := exists_foothold hd names
    have proper' (name : Name) (hn : name ∈ (fs.foothold base names).2) :=
      proper name (split ▸ List.mem_append_right _ hn)
    rw [split] at w
    obtain ⟨i, j, mid, rfl, first, rest⟩ := w.split
    obtain rfl := first.end_unique (g.walks reached)
    obtain ⟨all, last⟩ := g.walks_below tree none (List.nil_prefix : [] <+: new) before
      proper' (by rwa [List.append_nil])
    rw [List.append_nil] at last
    exact ⟨all, last⟩

end Grown

/-! ## Where directories are made -/

/-- A path that goes on from a directory by names. -/
structure GoesOn (fs : FileSystem) (path : Path) (base : Location) (names : List Name) : Prop where
  proper : ∀ name ∈ names, Path.IsProper name
  leads : ∃ before n, path.named = before ++ names ∧ n ≤ maxLinks ∧
    fs.Walks n (startOf path fs.current) before base

/-- Above a path that goes on by names, its parent goes on by all but the last. -/
lemma GoesOn.parent {fs : FileSystem} {path : Path} {base : Location} {names : List Name}
    {last : Name} (h : fs.GoesOn path base (names ++ [last])) :
    ∃ parent, path.parent? = some parent ∧ parent.IsBeginning path ∧
      fs.GoesOn parent base names := by
  obtain ⟨proper, before, n, named, le, w⟩ := h
  have proper' (name : Name) (hn : name ∈ names) := proper name (List.mem_append_left _ hn)
  have hlast : path.named.getLast? = some last := by
    rw [named, ← List.append_assoc, List.getLast?_concat]
  obtain ⟨parent, dots, e, beginning, pieces, nothing⟩ :=
    Path.parent?_eq_some hlast (proper last (by simp))
  have start : startOf parent fs.current = startOf path fs.current := by
    rw [startOf, startOf, beginning.isAbsolute]
  refine ⟨parent, e, beginning, proper', ?_⟩
  rw [named, ← List.append_assoc, List.dropLast_concat] at pieces
  rw [start]
  rcases List.eq_nil_or_concat names with rfl | ⟨init, name, rfl⟩
  · rw [List.append_nil] at pieces
    rw [pieces] at w
    obtain ⟨k, m, mid, rfl, w, wdots⟩ := w.split
    obtain rfl := wdots.of_dots nothing
    exact ⟨parent.named, k, (List.append_nil _).symm, by omega, w⟩
  · -- the last name is no dot, so no dots are left out
    have none : dots = [] := by
      rcases List.eq_nil_or_concat dots with h | ⟨others, dot, rfl⟩
      · exact h
      · have same := congrArg List.getLast? pieces
        simp only [List.concat_eq_append, ← List.append_assoc, List.getLast?_concat] at same
        obtain rfl := Option.some.inj same
        exact absurd (nothing name (by simp)) (proper' name (by simp)).ne_dot
    rw [none, List.append_nil] at pieces
    exact ⟨before, n, pieces.symm, le, w⟩

/-- A fault other than a missing directory ends the making of directories. -/
lemma makeAll_of_error {fs : FileSystem} {path : Path} {fault : SystemError}
    (h : fs.makeDirectory path = .error fault) (ne : fault ≠ .noEntry) (above : List Path) :
    (fs.makeAll (path :: above)).1 = fs := by
  rw [makeAll, h]
  cases fault <;> first | exact absurd rfl ne | (dsimp only; split <;> rfl)

/-- Under a path that no system call takes, no directory is made. -/
lemma makeDirectory_of_check {fs : FileSystem} {path : Path} {fault : SystemError}
    (h : path.check = .error fault) : fs.makeDirectory path = .error fault := by
  rw [makeDirectory, locate, h]
  rfl

/-- A path with names has no fault of its own that looks like a missing directory. -/
lemma check_ne_noEntry {path : Path} (ne : path.named ≠ []) : path.check ≠ .error .noEntry := by
  intro h
  rw [Path.check, Path.checkText] at h
  split at h
  · cases h
  · split at h
    · rename_i empty
      rw [Path.named, empty] at ne
      exact ne rfl
    · split at h <;> cases h

/-- Where a path leads to a directory, nothing is made. -/
lemma makeAll_of_there {fs : FileSystem} {path : Path} {base : Location}
    (h : fs.GoesOn path base []) (hd : fs.get? base = some .directory) (fuel : Nat) :
    (fs.makeAll (Path.upwards.go fuel path)).1 = fs := by
  cases fuel with
  | zero => rfl
  | succ fuel =>
    rw [Path.upwards.go]
    cases e : path.parent? with
    | none => rfl
    | some parent =>
      have ne := Path.named_ne_nil e
      cases check : path.check with
      | error fault =>
        exact makeAll_of_error (makeDirectory_of_check check)
          (fun same => check_ne_noEntry ne (same ▸ check)) _
      | ok =>
        obtain ⟨-, before, n, named, le, w⟩ := h
        rw [List.append_nil] at named
        have found : fs.resolve path = .ok base := by
          refine resolve_eq_ok_iff.2 ⟨check, ?_⟩
          cases slashed : path.endsInSlash with
          | false =>
            rw [Path.steps_eq_named slashed, named]
            exact w.walk le
          | true =>
            have : path.steps = path.named ++ [[Path.dot]] := if_pos slashed
            rw [this, named]
            exact (w.append (.dot hd .stay)).walk (by omega)
        exact makeAll_of_error (makeDirectory_of_resolve found ne) (fun h => by cases h) _

/-- A directory that is made is new at the place that its path names. -/
lemma makeDirectory_eq_ok {fs made : FileSystem} {path : Path}
    (h : fs.makeDirectory path = .ok made) :
    ∃ directory name slash, fs.locate path = .ok (directory, some name, slash) ∧
      name.length ≤ Path.maxName ∧ fs.get? (directory ++ [name]) = none ∧
      made = fs.set (directory ++ [name]) .directory := by
  rw [makeDirectory] at h
  cases located : fs.locate path with
  | error fault =>
    rw [located] at h
    cases h
  | ok place =>
    obtain ⟨directory, name, slash⟩ := place
    rw [located] at h
    cases name with
    | none => cases h
    | some name =>
      simp only [bind, Except.bind] at h
      split at h
      · cases h
      · rename_i short
        split at h
        · cases h
        · rename_i free
          cases h
          exact ⟨directory, name, slash, rfl, Nat.not_lt.1 short, by simpa using free, rfl⟩

/-- A path that goes on by names is placed in the directory that all names but the last lead to. -/
lemma GoesOn.locate {fs made : FileSystem} {path : Path} {base directory : Location}
    {names : List Name} {last name : Name} {slash : Bool}
    (h : fs.GoesOn path base (names ++ [last])) (current : made.current = fs.current)
    (keeps : ∀ {n here steps goal}, fs.Walks n here steps goal → made.Walks n here steps goal)
    (located : made.locate path = .ok (directory, some name, slash)) :
    name = last ∧ made.get? directory = some .directory ∧
      ∃ n ≤ maxLinks, made.Walks n base names directory := by
  obtain ⟨-, before, n, named, le, w⟩ := h
  obtain ⟨-, arrives, hd, hlast, -⟩ := locate_eq_ok_iff.1 located
  rw [named, ← List.append_assoc] at arrives hlast
  rw [List.getLast?_concat] at hlast
  rw [List.dropLast_concat, current] at arrives
  obtain ⟨k, le', w'⟩ := walks_of_walk arrives
  obtain ⟨i, j, mid, rfl, first, rest⟩ := w'.split
  obtain rfl := first.end_unique (keeps w)
  exact ⟨(Option.some.inj hlast).symm, hd, j, by omega, rest⟩

/-! ### Along names -/

/-- Files with new directories below the foothold of names, under some of the names that are left. -/
def GrownAlong (fs : FileSystem) (base : Location) (names : List Name) (files : FileSystem) : Prop :=
  ∃ new, new <+: (fs.foothold base names).2 ∧ fs.Grown (fs.foothold base names).1 new files

namespace GrownAlong

variable {fs files : FileSystem} {base : Location} {names : List Name} {last : Name}

/-- Nothing has to be new. -/
lemma refl (fs : FileSystem) (base : Location) (names : List Name) : fs.GrownAlong base names fs :=
  ⟨[], List.nil_prefix, .nil⟩

/-- What is new along names is new along more of them. -/
lemma concat (grown : fs.GrownAlong base names files) (last : Name) :
    fs.GrownAlong base (names ++ [last]) files := by
  obtain ⟨new, before, grown⟩ := grown
  by_cases left : (fs.foothold base names).2 = []
  · rw [left] at before
    obtain rfl := List.prefix_nil.1 before
    rw [grown.eq_of_nil]
    exact refl _ _ _
  · rw [GrownAlong, foothold_append left]
    exact ⟨new, before.trans (List.prefix_append _ _), grown⟩

/-- A directory that is made by itself is new along the names of its path. -/
lemma of_makeDirectory {path : Path} {made : FileSystem}
    (h : fs.GoesOn path base (names ++ [last])) (first : fs.makeDirectory path = .ok made) :
    fs.GrownAlong base (names ++ [last]) made := by
  obtain ⟨directory, name, slash, located, -, free, rfl⟩ := makeDirectory_eq_ok first
  obtain ⟨rfl, hd, n, le, w⟩ := h.locate rfl id located
  rw [GrownAlong, foothold_of_walks w le hd, foothold_of_missing free (h.proper name (by simp))]
  have one : fs.Grown directory [name] _ :=
    .snoc (.nil : Grown fs directory [] fs) (by rwa [List.append_nil])
  rw [List.append_nil] at one
  exact ⟨[name], List.prefix_rfl, one⟩

/-- So is one that could not be made before those above it were. -/
lemma makeDirectory {path : Path} {made : FileSystem} {fault : SystemError}
    (grown : fs.GrownAlong base names files) (tree : fs.IsTree)
    (hd : fs.get? base = some .directory) (h : fs.GoesOn path base (names ++ [last]))
    (first : fs.makeDirectory path = .error fault) (second : files.makeDirectory path = .ok made) :
    fs.GrownAlong base (names ++ [last]) made := by
  obtain ⟨new, before, grown⟩ := grown
  have some : new ≠ [] := by
    rintro rfl
    rw [grown.eq_of_nil, first] at second
    cases second
  have proper : ∀ name ∈ names, Path.IsProper name :=
    fun name mem => h.proper name (List.mem_append_left _ mem)
  obtain ⟨directory, name, slash, located, -, free, rfl⟩ := makeDirectory_eq_ok second
  obtain ⟨rfl, hd', n, le, w⟩ := h.locate grown.current grown.walks located
  -- the names above lead to the last of the new directories, so none of them is left
  obtain ⟨all, rfl⟩ := grown.arrives tree hd before proper w le hd'
  subst all
  rw [GrownAlong, foothold_append some]
  exact ⟨_ ++ [name], List.prefix_rfl, .snoc grown free⟩

end GrownAlong

/-- Making directories along names makes one within the other, below the foothold of the names. -/
theorem makeAll_grown {fs : FileSystem} (tree : fs.IsTree) {base : Location}
    (hd : fs.get? base = some .directory) {path : Path} {names : List Name}
    (h : fs.GoesOn path base names) (fuel : Nat) :
    fs.GrownAlong base names (fs.makeAll (Path.upwards.go fuel path)).1 := by
  -- from the last name on, since that is the one a parent lacks
  induction names using List.reverseRecOn generalizing path fuel with
  | nil =>
    rw [makeAll_of_there h hd]
    exact .refl _ _ _
  | append_singleton names last ih =>
    cases fuel with
    | zero => exact .refl _ _ _
    | succ fuel =>
      obtain ⟨parent, e, -, on⟩ := h.parent
      rw [Path.upwards.go, e]
      dsimp only
      cases first : fs.makeDirectory path with
      | ok made =>
        rw [makeAll, first]
        exact .of_makeDirectory h first
      | error fault =>
        by_cases missing : fault = .noEntry
        · subst missing
          -- the parent is made first, and then the directory is tried again
          have grown := ih on fuel
          rw [makeAll, first]
          dsimp only
          cases above : fs.makeAll (Path.upwards.go fuel parent) with
          | mk files result =>
            rw [above] at grown
            cases result with
            | error fault => exact grown.concat last
            | ok =>
              dsimp only
              cases second : files.makeDirectory path with
              | error fault =>
                dsimp only
                split <;> exact grown.concat last
              | ok made => exact grown.makeDirectory tree hd h first second
        · rw [makeAll_of_error first missing _]
          exact .refl _ _ _

end TargetNet.FileSystem
