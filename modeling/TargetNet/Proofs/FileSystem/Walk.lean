import Mathlib.Data.List.Basic
import Mathlib.Tactic.Common
import TargetNet.FileSystem.AtomicWrite
import TargetNet.Proofs.Path

/-!
# Walks

`Walks` is the relation behind `FileSystem.walk`: a walk that arrives, with the number of links it
follows on its way. `walk_eq_ok_iff` ties the two together, and the lemmas on the relation carry
what is shown about look-ups: a walk is put together and taken apart along its steps
(`Walks.append`, `Walks.split`), it has one end (`Walks.end_unique`), and it is the same in every
file system that keeps the directories and links it meets (`Walks.transfer`).
-/

namespace TargetNet

/-- A step that is the name of an entry, short enough to be looked up. -/
def Path.IsName (step : Name) : Prop :=
  step ≠ [Path.dot] ∧ step ≠ [Path.dot, Path.dot] ∧ step.length ≤ Path.maxName

lemma Path.steps_eq_named {path : Path} (h : path.endsInSlash = false) :
    path.steps = path.named := by
  simp [Path.steps, Path.named, h]

/-- The last step of a path that ends in no slash is its last name. -/
lemma Path.steps_of_getLast? {path : Path} {name : Name} (slashed : path.endsInSlash = false)
    (last : path.named.getLast? = some name) : path.steps = path.named.dropLast ++ [name] := by
  rw [steps_eq_named slashed]
  exact (List.dropLast_append_getLast? name last).symm

/-- A system call takes a path without a zero byte that is neither empty nor too long. -/
lemma Path.check_eq_ok_iff {path : Path} :
    path.check = .ok () ↔ 0 ∉ path.bytes ∧ path.bytes ≠ [] ∧ path.bytes.length < maxPath := by
  rw [check, checkText]
  by_cases nul : 0 ∈ path.bytes
  · simp [nul, bind, Except.bind]
  · by_cases empty : path.bytes = []
    · simp [empty, bind, Except.bind]
    · simp [nul, empty, bind, Except.bind]

/-- What a path without faults goes on from has none, if it is a path at all. -/
lemma Path.IsBeginning.check {beginning path : Path} (h : beginning.IsBeginning path)
    (ok : path.check = .ok ()) (ne : beginning.bytes ≠ []) : beginning.check = .ok () := by
  obtain ⟨nul, -, short⟩ := check_eq_ok_iff.1 ok
  exact check_eq_ok_iff.2
    ⟨fun h0 => nul (h.bytes.subset h0), ne, Nat.lt_of_le_of_lt h.bytes.length_le short⟩

/-- The location with these names. -/
def Location.ofStrings (names : List String) : Location :=
  names.map Text.Utf8.encode

/-- A link. -/
def Entry.IsLink (entry : Entry) : Prop :=
  ∃ held, entry = .link held

instance : DecidablePred Entry.IsLink
  | .link held => isTrue ⟨held, rfl⟩
  | .directory => isFalse (by rintro ⟨held, ⟨⟩⟩)
  | .file _ _ => isFalse (by rintro ⟨held, ⟨⟩⟩)

/-- A regular file. -/
def Entry.IsFile (entry : Entry) : Prop :=
  ∃ content mode, entry = .file content mode

lemma Entry.not_isFile_directory : ¬ Entry.directory.IsFile := by
  rintro ⟨_, _, e⟩
  cases e

namespace FileSystem

lemma isDirectoryAt_iff {fs : FileSystem} {location : Location} :
    fs.isDirectoryAt location = true ↔ fs.get? location = some .directory := by
  simp [isDirectoryAt]

/-! ## One step of a look-up -/

section

variable {fs : FileSystem} {links : Nat} {here : Location} {step : Name} {rest : List Name}

/-- A dot stays in its directory. -/
lemma walk_dot (hd : fs.get? here = some .directory) :
    fs.walk links here ([Path.dot] :: rest) = fs.walk links here rest := by
  rw [walk_cons, if_pos (isDirectoryAt_iff.2 hd), if_pos rfl]

/-- Two dots lead to the directory above. -/
lemma walk_up (hd : fs.get? here = some .directory) :
    fs.walk links here ([Path.dot, Path.dot] :: rest) = fs.walk links here.dropLast rest := by
  rw [walk_cons, if_pos (isDirectoryAt_iff.2 hd), if_neg (by decide), if_pos rfl]

/-- A step that is too long to be a name is refused. -/
lemma walk_long (hd : fs.get? here = some .directory) (long : Path.maxName < step.length) :
    fs.walk links here (step :: rest) = .error .nameTooLong := by
  have other {name : Name} (short : name.length ≤ Path.maxName) : step ≠ name := by
    rintro rfl
    exact Nat.not_lt.2 short long
  rw [walk_cons, if_pos (isDirectoryAt_iff.2 hd), if_neg (other (by decide)),
    if_neg (other (by decide)), if_pos long]

/-- What happens at a name depends on what is there. -/
lemma walk_name (hd : fs.get? here = some .directory) (name : Path.IsName step) :
    fs.walk links here (step :: rest) =
      match fs.get? (here ++ [step]) with
      | none => .error .noEntry
      | some (.link held) =>
        match links with
        | 0 => .error .tooManyLinks
        | links + 1 => fs.walk links (startOf held here) (held.steps ++ rest)
      | some _ => fs.walk links (here ++ [step]) rest := by
  obtain ⟨h1, h2, h3⟩ := name
  exact (walk_cons fs links here step rest).trans ((if_pos (isDirectoryAt_iff.2 hd)).trans
    ((if_neg h1).trans ((if_neg h2).trans (if_neg (Nat.not_lt.2 h3)))))

/-- A name that is not there is refused. -/
lemma walk_missing (hd : fs.get? here = some .directory) (name : Path.IsName step)
    (missing : fs.get? (here ++ [step]) = none) :
    fs.walk links here (step :: rest) = .error .noEntry := by
  rw [walk_name hd name, missing]

/-- A link is refused when no more may be followed. -/
lemma walk_spent {held : Path} (hd : fs.get? here = some .directory) (name : Path.IsName step)
    (link : fs.get? (here ++ [step]) = some (.link held)) :
    fs.walk 0 here (step :: rest) = .error .tooManyLinks := by
  rw [walk_name hd name, link]

/-- A link puts the path that it holds in the place of its name. -/
lemma walk_link {held : Path} (hd : fs.get? here = some .directory) (name : Path.IsName step)
    (link : fs.get? (here ++ [step]) = some (.link held)) :
    fs.walk (links + 1) here (step :: rest) =
      fs.walk links (startOf held here) (held.steps ++ rest) := by
  rw [walk_name hd name, link]

/-- The name of anything else leads there. -/
lemma walk_into {entry : Entry} (hd : fs.get? here = some .directory) (name : Path.IsName step)
    (there : fs.get? (here ++ [step]) = some entry) (other : ¬ entry.IsLink) :
    fs.walk links here (step :: rest) = fs.walk links (here ++ [step]) rest := by
  rw [walk_name hd name, there]
  cases entry with
  | link held => exact absurd ⟨held, rfl⟩ other
  | file content mode => rfl
  | directory => rfl

/-- Nothing leads on from what is no directory. -/
lemma walk_blocked (hd : fs.get? here ≠ some .directory) :
    fs.walk links here (step :: rest) = .error .notDirectory := by
  rw [walk_cons, if_neg]
  exact fun h => hd (isDirectoryAt_iff.1 h)

end

/-- What holds of a look-up as soon as it holds of the one that is left after a step holds of all. -/
@[elab_as_elim]
lemma walk_induction (fs : FileSystem) {motive : Nat → Location → List Name → Prop}
    (arrived : ∀ links here, motive links here [])
    (dot : ∀ links here rest, fs.get? here = some .directory → motive links here rest →
      motive links here ([Path.dot] :: rest))
    (up : ∀ links here rest, fs.get? here = some .directory → motive links here.dropLast rest →
      motive links here ([Path.dot, Path.dot] :: rest))
    (long : ∀ links here step rest, fs.get? here = some .directory →
      Path.maxName < step.length → motive links here (step :: rest))
    (missing : ∀ links here step rest, fs.get? here = some .directory → Path.IsName step →
      fs.get? (here ++ [step]) = none → motive links here (step :: rest))
    (spent : ∀ here step rest held, fs.get? here = some .directory → Path.IsName step →
      fs.get? (here ++ [step]) = some (.link held) → motive 0 here (step :: rest))
    (link : ∀ links here step rest held, fs.get? here = some .directory → Path.IsName step →
      fs.get? (here ++ [step]) = some (.link held) →
      motive links (startOf held here) (held.steps ++ rest) → motive (links + 1) here (step :: rest))
    (into : ∀ links here step rest entry, fs.get? here = some .directory → Path.IsName step →
      fs.get? (here ++ [step]) = some entry → ¬ entry.IsLink →
      motive links (here ++ [step]) rest → motive links here (step :: rest))
    (blocked : ∀ links here step rest, fs.get? here ≠ some .directory →
      motive links here (step :: rest))
    (links : Nat) (here : Location) (steps : List Name) : motive links here steps := by
  -- only a link needs what is known of look-ups with fewer links
  have further (links : Nat) (onward : ∀ k, links = k + 1 → ∀ here steps, motive k here steps)
      (here : Location) (steps : List Name) : motive links here steps := by
    induction steps generalizing here with
    | nil => exact arrived links here
    | cons step rest ih =>
      by_cases hd : fs.get? here = some .directory
      · by_cases h1 : step = [Path.dot]
        · exact h1 ▸ dot links here rest hd (ih here)
        by_cases h2 : step = [Path.dot, Path.dot]
        · exact h2 ▸ up links here rest hd (ih _)
        by_cases h3 : Path.maxName < step.length
        · exact long links here step rest hd h3
        have name : Path.IsName step := ⟨h1, h2, Nat.not_lt.1 h3⟩
        cases there : fs.get? (here ++ [step]) with
        | none => exact missing links here step rest hd name there
        | some entry =>
          by_cases is : entry.IsLink
          · obtain ⟨held, rfl⟩ := is
            cases links with
            | zero => exact spent here step rest held hd name there
            | succ k => exact link k here step rest held hd name there (onward k rfl _ _)
          · exact into links here step rest entry hd name there is (ih _)
      · exact blocked links here step rest hd
  induction links generalizing here steps with
  | zero => exact further 0 nofun here steps
  | succ k ih =>
    refine further (k + 1) (fun m same => ?_) here steps
    cases same
    exact ih

/-! ## Look-ups that arrive -/

/-- A walk that arrives: how many links it follows, where it starts, its steps, and its end. -/
inductive Walks (fs : FileSystem) : Nat → Location → List Name → Location → Prop where
  | stay {here} :
    Walks fs 0 here [] here
  | dot {n here rest goal} :
    fs.get? here = some .directory →
    Walks fs n here rest goal →
    Walks fs n here ([Path.dot] :: rest) goal
  | up {n here rest goal} :
    fs.get? here = some .directory →
    Walks fs n here.dropLast rest goal →
    Walks fs n here ([Path.dot, Path.dot] :: rest) goal
  | into {n here step rest goal entry} :
    fs.get? here = some .directory →
    Path.IsName step →
    fs.get? (here ++ [step]) = some entry →
    ¬ entry.IsLink →
    Walks fs n (here ++ [step]) rest goal →
    Walks fs n here (step :: rest) goal
  | link {n here step rest goal held} :
    fs.get? here = some .directory →
    Path.IsName step →
    fs.get? (here ++ [step]) = some (.link held) →
    Walks fs n (startOf held here) (held.steps ++ rest) goal →
    Walks fs (n + 1) here (step :: rest) goal

/-- A look-up that arrives is a walk. -/
lemma walks_of_walk {fs : FileSystem} {links here steps goal}
    (h : fs.walk links here steps = .ok goal) : ∃ n ≤ links, fs.Walks n here steps goal := by
  induction links, here, steps using fs.walk_induction with
  | arrived links here =>
    rw [walk_nil] at h
    cases h
    exact ⟨0, Nat.zero_le _, .stay⟩
  | dot links here rest hd ih =>
    rw [walk_dot hd] at h
    obtain ⟨n, le, w⟩ := ih h
    exact ⟨n, le, .dot hd w⟩
  | up links here rest hd ih =>
    rw [walk_up hd] at h
    obtain ⟨n, le, w⟩ := ih h
    exact ⟨n, le, .up hd w⟩
  | long links here step rest hd long =>
    rw [walk_long hd long] at h
    cases h
  | missing links here step rest hd hn missing =>
    rw [walk_missing hd hn missing] at h
    cases h
  | spent here step rest held hd hn hl =>
    rw [walk_spent hd hn hl] at h
    cases h
  | link links here step rest held hd hn hl ih =>
    rw [walk_link hd hn hl] at h
    obtain ⟨n, le, w⟩ := ih h
    exact ⟨n + 1, Nat.succ_le_succ le, .link hd hn hl w⟩
  | into links here step rest entry hd hn he hl ih =>
    rw [walk_into hd hn he hl] at h
    obtain ⟨n, le, w⟩ := ih h
    exact ⟨n, le, .into hd hn he hl w⟩
  | blocked links here step rest hd =>
    rw [walk_blocked hd] at h
    cases h

/-- A look-up that fails does so whatever comes after. -/
lemma walk_append_of_error {fs : FileSystem} {links here xs fault}
    (h : fs.walk links here xs = .error fault) (ys : List Name) :
    fs.walk links here (xs ++ ys) = .error fault := by
  induction links, here, xs using fs.walk_induction with
  | arrived links here =>
    rw [walk_nil] at h
    cases h
  | dot links here rest hd ih =>
    rw [walk_dot hd] at h
    rw [List.cons_append, walk_dot hd]
    exact ih h
  | up links here rest hd ih =>
    rw [walk_up hd] at h
    rw [List.cons_append, walk_up hd]
    exact ih h
  | long links here step rest hd long =>
    rw [walk_long hd long] at h
    rwa [List.cons_append, walk_long hd long]
  | missing links here step rest hd hn missing =>
    rw [walk_missing hd hn missing] at h
    rwa [List.cons_append, walk_missing hd hn missing]
  | spent here step rest held hd hn hl =>
    rw [walk_spent hd hn hl] at h
    rwa [List.cons_append, walk_spent hd hn hl]
  | link links here step rest held hd hn hl ih =>
    rw [walk_link hd hn hl] at h
    rw [List.cons_append, walk_link hd hn hl, ← List.append_assoc]
    exact ih h
  | into links here step rest entry hd hn he hl ih =>
    rw [walk_into hd hn he hl] at h
    rw [List.cons_append, walk_into hd hn he hl]
    exact ih h
  | blocked links here step rest hd =>
    rw [walk_blocked hd] at h
    rwa [List.cons_append, walk_blocked hd]

/-- A look-up goes on from where another one ends, with the links that are left. -/
lemma Walks.walk_append {fs : FileSystem} {n here xs mid} (w : fs.Walks n here xs mid) {links : Nat}
    (le : n ≤ links) (ys : List Name) :
    fs.walk links here (xs ++ ys) = fs.walk (links - n) mid ys := by
  induction w generalizing links with
  | stay => rfl
  | dot hd _ ih =>
    rw [List.cons_append, walk_dot hd]
    exact ih le
  | up hd _ ih =>
    rw [List.cons_append, walk_up hd]
    exact ih le
  | into hd hn he hl _ ih =>
    rw [List.cons_append, walk_into hd hn he hl]
    exact ih le
  | @link n here step rest goal held hd hn hl _ ih =>
    obtain ⟨k, rfl⟩ := Nat.exists_eq_add_of_lt le
    rw [List.cons_append, walk_link hd hn hl, ← List.append_assoc, ih (show n ≤ n + k by omega),
      show n + k + 1 - (n + 1) = n + k - n by omega]

/-- A walk is a look-up that arrives, if it may follow enough links. -/
lemma Walks.walk {fs : FileSystem} {n here steps goal} (w : fs.Walks n here steps goal)
    {links : Nat} (le : n ≤ links) : fs.walk links here steps = .ok goal := by
  have := w.walk_append le []
  rwa [List.append_nil, walk_nil] at this

/-- The look-ups that arrive are the walks that do not follow too many links. -/
theorem walk_eq_ok_iff {fs : FileSystem} {links here steps goal} :
    fs.walk links here steps = .ok goal ↔ ∃ n ≤ links, fs.Walks n here steps goal :=
  ⟨walks_of_walk, fun ⟨_, le, w⟩ => w.walk le⟩

/-- Two walks along the same steps have the same end. -/
lemma Walks.end_unique {fs : FileSystem} {n m here steps goal goal'}
    (w : fs.Walks n here steps goal) (w' : fs.Walks m here steps goal') : goal = goal' := by
  have h := w.walk (Nat.le_max_left n m)
  have h' := w'.walk (Nat.le_max_right n m)
  exact Except.ok.inj (h.symm.trans h')

/-- One way after another is a way. -/
lemma Walks.append {fs : FileSystem} {n m here xs ys mid goal}
    (w : fs.Walks n here xs mid) (w' : fs.Walks m mid ys goal) :
    fs.Walks (n + m) here (xs ++ ys) goal := by
  induction w with
  | stay => rw [Nat.zero_add]; exact w'
  | dot hd _ ih => exact .dot hd (ih w')
  | up hd _ ih => exact .up hd (ih w')
  | into hd hn he hl _ ih => exact .into hd hn he hl (ih w')
  | link hd hn hl _ ih =>
    rw [Nat.add_right_comm]
    refine .link hd hn hl ?_
    have := ih w'
    rwa [List.append_assoc] at this

/-- A walk along the steps of two parts stops between them. -/
lemma Walks.split {fs : FileSystem} {n here xs ys goal} (w : fs.Walks n here (xs ++ ys) goal) :
    ∃ k m mid, n = k + m ∧ fs.Walks k here xs mid ∧ fs.Walks m mid ys goal := by
  generalize e : xs ++ ys = steps at w
  -- on the walk and not on `xs`, since a link puts the steps that it holds before `xs`
  induction w generalizing xs with
  | @stay here =>
    obtain ⟨rfl, rfl⟩ := List.append_eq_nil_iff.1 e
    exact ⟨0, 0, here, rfl, .stay, .stay⟩
  | @dot n here rest goal hd w ih =>
    cases xs with
    | nil => subst e; exact ⟨0, n, here, (Nat.zero_add n).symm, .stay, .dot hd w⟩
    | cons x xs =>
      obtain ⟨rfl, rfl⟩ := List.cons.inj e
      obtain ⟨k, m, mid, rfl, w1, w2⟩ := ih rfl
      exact ⟨k, m, mid, rfl, .dot hd w1, w2⟩
  | @up n here rest goal hd w ih =>
    cases xs with
    | nil => subst e; exact ⟨0, n, here, (Nat.zero_add n).symm, .stay, .up hd w⟩
    | cons x xs =>
      obtain ⟨rfl, rfl⟩ := List.cons.inj e
      obtain ⟨k, m, mid, rfl, w1, w2⟩ := ih rfl
      exact ⟨k, m, mid, rfl, .up hd w1, w2⟩
  | @into n here step rest goal entry hd hn he hl w ih =>
    cases xs with
    | nil => subst e; exact ⟨0, n, here, (Nat.zero_add n).symm, .stay, .into hd hn he hl w⟩
    | cons x xs =>
      obtain ⟨rfl, rfl⟩ := List.cons.inj e
      obtain ⟨k, m, mid, rfl, w1, w2⟩ := ih rfl
      exact ⟨k, m, mid, rfl, .into hd hn he hl w1, w2⟩
  | @link n here step rest goal held hd hn hl w ih =>
    cases xs with
    | nil => subst e; exact ⟨0, n + 1, here, (Nat.zero_add _).symm, .stay, .link hd hn hl w⟩
    | cons x xs =>
      obtain ⟨rfl, rfl⟩ := List.cons.inj e
      obtain ⟨k, m, mid, rfl, w1, w2⟩ := ih (List.append_assoc held.steps xs ys)
      exact ⟨k + 1, m, mid, Nat.add_right_comm k m 1, .link hd hn hl w1, w2⟩

/-- A way with a step ahead is in a directory. -/
lemma Walks.isDirectory_of_cons {fs : FileSystem} {n here step rest goal}
    (w : fs.Walks n here (step :: rest) goal) : fs.get? here = some .directory := by
  cases w with
  | dot hd _ => exact hd
  | up hd _ => exact hd
  | into hd _ _ _ _ => exact hd
  | link hd _ _ _ => exact hd

/-- A walk is one in every file system that keeps the directories and links of this one, and what is
at the end of the walk. -/
lemma Walks.transfer {fs fs' : FileSystem} {n here steps goal} (w : fs.Walks n here steps goal)
    (keeps : ∀ l entry, fs.get? l = some entry → ¬ entry.IsFile ∨ l = goal →
      fs'.get? l = some entry) :
    fs'.Walks n here steps goal := by
  have directory {l} (h : fs.get? l = some .directory) : fs'.get? l = some .directory :=
    keeps l _ h (.inl Entry.not_isFile_directory)
  induction w with
  | stay => exact .stay
  | dot hd _ ih => exact .dot (directory hd) (ih keeps)
  | up hd _ ih => exact .up (directory hd) (ih keeps)
  | @into n here step rest goal entry hd hn he hl w ih =>
    refine .into (directory hd) hn (keeps _ _ he ?_) hl (ih keeps)
    cases entry with
    | link held => exact absurd ⟨held, rfl⟩ hl
    | directory => exact .inl Entry.not_isFile_directory
    | file content mode =>
      -- nothing leads on from a file, so the walk ends there
      cases rest with
      | nil => cases w; exact .inr rfl
      | cons next rest =>
        have := w.isDirectory_of_cons
        rw [he] at this
        cases this
  | link hd hn hl _ ih =>
    have kept := keeps _ _ hl (.inl (by rintro ⟨_, _, ⟨⟩⟩))
    exact .link (directory hd) hn kept (ih keeps)

/-! ## Looking up a path -/

/-- A path with a fault of its own is not looked up. -/
lemma resolve_of_check {fs : FileSystem} {path : Path} {fault : SystemError}
    (h : path.check = .error fault) : fs.resolve path = .error fault := by
  rw [resolve, h]
  rfl

/-- A path is resolved to where it is walked, if a system call takes it. -/
lemma resolve_eq_ok_iff {fs : FileSystem} {path : Path} {goal : Location} :
    fs.resolve path = .ok goal ↔
      path.check = .ok () ∧
        fs.walk maxLinks (startOf path fs.current) path.steps = .ok goal := by
  rw [resolve]
  cases path.check with
  | error fault => simp [bind, Except.bind]
  | ok => simp [bind, Except.bind]

/-- What is found under a path is at the location that it leads to. -/
lemma find_eq_ok_iff {fs : FileSystem} {path : Path} {entry : Entry} :
    fs.find path = .ok entry ↔
      ∃ goal, fs.resolve path = .ok goal ∧ fs.get? goal = some entry := by
  rw [find]
  cases fs.resolve path with
  | error fault => simp [bind, Except.bind]
  | ok goal => cases there : fs.get? goal <;> simp [bind, Except.bind, there]

/-- What is read is the content of the file that a path leads to, if this may be read. -/
lemma read_eq_ok_iff [Circumstances] {fs : FileSystem} {path : Path} {content : ByteArray} :
    fs.read path = .ok content ↔
      ∃ mode, fs.find path = .ok (.file content mode) ∧ Circumstances.reading path mode = none := by
  rw [read]
  cases fs.find path with
  | error fault => simp [bind, Except.bind]
  | ok entry =>
    cases entry with
    | file found mode =>
      cases refused : Circumstances.reading path mode <;> simp [bind, Except.bind, refused]
    | directory => simp [bind, Except.bind]
    | link goal => simp [bind, Except.bind]

/-- A text is read where its bytes are. -/
lemma readText_eq_ok_iff [Circumstances] {fs : FileSystem} {path : Path} {text : String} :
    fs.readText path = .ok text ↔ fs.read path = .ok text.toUTF8 := by
  rw [readText]
  cases fs.read path with
  | error fault => simp [bind, Except.bind]
  | ok bytes =>
    rw [Except.ok.injEq, ← Text.Utf8.decode_eq_ok_iff]
    cases decoded : Text.Utf8.decode bytes with
    | error place => simp [bind, Except.bind, decoded]
    | ok found => simp [bind, Except.bind, decoded]

/-- The test of a path says whether it leads to a directory. -/
lemma isDirectory_iff {fs : FileSystem} {path : Path} :
    fs.isDirectory path = true ↔ fs.find path = .ok .directory := by
  rw [isDirectory]
  split
  case h_1 found => simp [found]
  case h_2 other => simpa using other

/-- The place that a path names is its last name in the directory that the others lead to. -/
lemma locate_eq_ok_iff {fs : FileSystem} {path : Path} {directory : Location} {name : Name}
    {slash : Bool} :
    fs.locate path = .ok (directory, some name, slash) ↔
      path.check = .ok () ∧
        fs.walk maxLinks (startOf path fs.current) path.named.dropLast = .ok directory ∧
        fs.get? directory = some .directory ∧
        path.named.getLast? = some name ∧ name ≠ [Path.dot] ∧ name ≠ [Path.dot, Path.dot] ∧
        path.endsInSlash = slash := by
  rw [locate]
  cases path.check with
  | error fault => simp [bind, Except.bind]
  | ok =>
    change ((fs.walk maxLinks (startOf path fs.current) path.named.dropLast).bind _ = _) ↔ _
    cases fs.walk maxLinks (startOf path fs.current) path.named.dropLast with
    | error fault => simp [Except.bind]
    | ok found =>
      simp only [Except.bind, Path.named]
      split
      · rename_i hd
        have hd := isDirectoryAt_iff.1 hd
        cases ((Path.pieces path.bytes).filter (· ≠ [])).getLast? with
        | none => simp
        | some last =>
          dsimp only
          split
          · rename_i dots
            constructor
            · intro h
              cases h
            · rintro ⟨-, -, -, e, h1, h2, -⟩
              cases e
              exact absurd dots (not_or.2 ⟨h1, h2⟩)
          · rename_i dots
            obtain ⟨h1, h2⟩ := not_or.1 dots
            constructor
            · intro e
              cases e
              exact ⟨trivial, rfl, hd, rfl, h1, h2, rfl⟩
            · rintro ⟨-, e, -, e', -, -, rfl⟩
              cases e
              cases e'
              rfl
      · rename_i hd
        constructor
        · intro h
          cases h
        · rintro ⟨-, e, h, -⟩
          cases e
          exact absurd (isDirectoryAt_iff.2 h) hd

/-- The place that a path names stays where it is as long as all that is there stays. -/
lemma locate_of_keeps {fs fs' : FileSystem} {path : Path} {directory : Location} {name : Name}
    {slash : Bool} (h : fs.locate path = .ok (directory, some name, slash))
    (current : fs'.current = fs.current)
    (keeps : ∀ l entry, fs.get? l = some entry → fs'.get? l = some entry) :
    fs'.locate path = .ok (directory, some name, slash) := by
  obtain ⟨check, arrives, hd, rest⟩ := locate_eq_ok_iff.1 h
  obtain ⟨n, le, w⟩ := walk_eq_ok_iff.1 arrives
  refine locate_eq_ok_iff.2 ⟨check, ?_, keeps _ _ hd, rest⟩
  rw [current]
  exact (w.transfer fun l entry he _ => keeps l entry he).walk le

/-- What a path leads to is found as long as all that is there stays. -/
lemma find_of_keeps {fs fs' : FileSystem} {path : Path} {entry : Entry}
    (h : fs.find path = .ok entry) (current : fs'.current = fs.current)
    (keeps : ∀ l entry, fs.get? l = some entry → fs'.get? l = some entry) :
    fs'.find path = .ok entry := by
  obtain ⟨goal, found, there⟩ := find_eq_ok_iff.1 h
  obtain ⟨check, arrives⟩ := resolve_eq_ok_iff.1 found
  obtain ⟨n, le, w⟩ := walk_eq_ok_iff.1 arrives
  refine find_eq_ok_iff.2 ⟨goal, resolve_eq_ok_iff.2 ⟨check, ?_⟩, keeps goal entry there⟩
  rw [current]
  exact (w.transfer fun l entry he _ => keeps l entry he).walk le

/-- A path that ends in dots names no place in a directory. -/
lemma locate_of_dots {fs : FileSystem} {path : Path} {directory : Location} {last : Name}
    (check : path.check = .ok ())
    (arrives : fs.walk maxLinks (startOf path fs.current) path.named.dropLast = .ok directory)
    (hd : fs.get? directory = some .directory) (hlast : path.named.getLast? = some last)
    (dots : last = [Path.dot] ∨ last = [Path.dot, Path.dot]) :
    fs.locate path = .ok (directory, none, path.endsInSlash) := by
  rw [Path.named] at arrives hlast
  rw [locate, check]
  simp only [bind, Except.bind]
  rw [arrives]
  simp only [isDirectoryAt_iff.2 hd, if_true, hlast, dots]

/-- The directory of a path is the current one if the path is empty. -/
lemma directory_eq_ok_iff {fs : FileSystem} {path : Path} {goal : Location} :
    fs.directory path = .ok goal ↔
      path.bytes = [] ∧ goal = fs.current ∨
        fs.resolve path = .ok goal ∧ fs.get? goal = some .directory := by
  rw [directory]
  split
  · rename_i empty
    have none : fs.resolve path = .error .noEntry := by
      simp [resolve, Path.check, Path.checkText, empty, bind, Except.bind]
    simp [empty, none, eq_comm]
  · rename_i ne
    cases fs.resolve path with
    | error fault => simp [ne, bind, Except.bind]
    | ok location =>
      simp only [bind, Except.bind]
      split
      · rename_i hd
        have hd := isDirectoryAt_iff.1 hd
        constructor
        · intro e
          cases e
          exact .inr ⟨rfl, hd⟩
        · rintro (⟨empty, -⟩ | ⟨e, -⟩)
          · exact absurd empty ne
          · exact e
      · rename_i hd
        constructor
        · intro h
          cases h
        · rintro (⟨empty, -⟩ | ⟨e, h⟩)
          · exact absurd empty ne
          · cases e
            exact absurd (isDirectoryAt_iff.2 h) hd

/-- Dots lead nowhere else. -/
lemma Walks.of_dots {fs : FileSystem} {n here dots goal} (w : fs.Walks n here dots goal)
    (h : ∀ step ∈ dots, step = [Path.dot]) : goal = here := by
  induction dots generalizing here n with
  | nil => cases w; rfl
  | cons step dots ih =>
    obtain rfl := h step List.mem_cons_self
    have rest (other : Name) (ho : other ∈ dots) := h other (List.mem_cons_of_mem _ ho)
    cases w with
    | dot _ w => exact ih w rest
    | into _ hn _ _ _ => exact absurd rfl hn.1
    | link _ hn _ _ => exact absurd rfl hn.1

/-- The place of an entry is in the directory that the parent of its path leads to. -/
lemma locate_parent {fs : FileSystem} {path : Path} {directory : Location} {name : Name}
    {slash : Bool} (h : fs.locate path = .ok (directory, some name, slash)) :
    ∃ parent, path.parent? = some parent ∧ fs.directory parent = .ok directory := by
  obtain ⟨check, arrives, hd, last, h1, h2, -⟩ := locate_eq_ok_iff.1 h
  obtain ⟨n, le, w⟩ := walk_eq_ok_iff.1 arrives
  obtain ⟨hp, ne⟩ := List.mem_filter.1 (List.mem_of_getLast? last)
  have proper : Path.IsProper name :=
    ⟨by simpa using ne, h1, h2, Path.slash_notMem_of_mem_pieces hp⟩
  obtain ⟨parent, dots, e, beginning, names, nothing⟩ := Path.parent?_eq_some last proper
  refine ⟨parent, e, directory_eq_ok_iff.2 ?_⟩
  rw [names] at w
  -- what the parent leaves out are dots, which lead nowhere
  obtain ⟨k, m, mid, rfl, w, wdots⟩ := w.split
  obtain rfl := wdots.of_dots nothing
  have start : startOf parent fs.current = startOf path fs.current := by
    rw [startOf, startOf, beginning.isAbsolute]
  rw [← start] at w
  by_cases empty : parent.bytes = []
  · left
    refine ⟨empty, ?_⟩
    rw [Path.named, empty] at w
    rw [startOf, Path.isAbsolute, empty] at w
    cases w
    rfl
  · right
    refine ⟨resolve_eq_ok_iff.2 ⟨beginning.check check empty, ?_⟩, hd⟩
    cases slashed : parent.endsInSlash with
    | false =>
      rw [Path.steps_eq_named slashed]
      exact w.walk (by omega)
    | true =>
      -- a parent ends in no slash, but for the root
      have root : parent = ⟨[Path.slash]⟩ := by
        cases parent
        exact congrArg Path.mk (beginning.endsInSlash slashed)
      subst root
      cases w
      exact (Walks.dot hd .stay).walk (Nat.zero_le _)

end FileSystem
end TargetNet
