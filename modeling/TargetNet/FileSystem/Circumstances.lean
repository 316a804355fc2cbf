import TargetNet.FileSystem.Basic

/-!
# Circumstances

What the system does by itself, whatever is asked of it: which files it refuses to read or to remove,
at which stage it stops a write, and how it names the files in which content is staged.
`Circumstances` surrounds everything that touches files, and what is proved of such things holds
however they are. They stay the same during a run. In `Circumstances.calm` nothing is refused; these are
the circumstances wherever no others are named.
-/

namespace TargetNet

/-- The stages of a write. -/
inductive WriteStage where
  /-- Makes the directory and those above it. -/
  | parents
  /-- Makes the staging file. -/
  | create
  /-- Writes the content into it. -/
  | fill
  /-- Waits until the content is stored. -/
  | flush
  /-- Sets the permissions. -/
  | permit
  /-- Moves the staging file to its destination. -/
  | publish
  deriving DecidableEq, Repr

/-- The stages in order. -/
def WriteStage.all : List WriteStage :=
  [.parents, .create, .fill, .flush, .permit, .publish]

/-- The stages that fail by themselves, and how. -/
abbrev Disturbance := WriteStage → Option SystemError

/-- No stage fails by itself. -/
def Disturbance.none : Disturbance := fun _ => Option.none

/-- How staging files are named. -/
structure StagingNames where
  /-- The name in a directory of the staging file for a destination. -/
  name : FileSystem → (directory : Location) → (destination : Path) → Name
  /-- Nothing is there under this name. -/
  free : ∀ (fs : FileSystem) directory destination,
    fs.get? (directory ++ [name fs directory destination]) = none
  /-- It is no part of the destination. -/
  apart : ∀ fs directory destination, name fs directory destination ∉ Path.pieces destination.bytes

namespace StagingNames

/-- The length of the longest of some names. -/
def longest (names : List Name) : Nat :=
  (names.map List.length).foldl max 0

/-- The last names of all locations in use. -/
def namesIn (fs : FileSystem) : List Name :=
  fs.entries.filterMap (·.1.getLast?)

/-- A name longer than every name in use and than every piece of the destination. -/
def longName (fs : FileSystem) (destination : Path) : Name :=
  Text.Utf8.encode ".netseed-" ++
    List.replicate (longest (namesIn fs ++ Path.pieces destination.bytes)) 120

/-- The greatest of some numbers is at least the first and each of the others. -/
theorem le_foldl_max (sizes : List Nat) (start : Nat) :
    start ≤ sizes.foldl max start ∧ ∀ size ∈ sizes, size ≤ sizes.foldl max start := by
  induction sizes generalizing start with
  | nil => simp
  | cons first rest ih =>
    obtain ⟨le, others⟩ := ih (max start first)
    refine ⟨Nat.le_trans (Nat.le_max_left _ _) le, ?_⟩
    intro size mem
    rcases List.mem_cons.1 mem with rfl | mem
    · exact Nat.le_trans (Nat.le_max_right _ _) le
    · exact others size mem

/-- No name is longer than the longest. -/
theorem length_le_longest {names : List Name} {name : Name} (h : name ∈ names) :
    name.length ≤ longest names :=
  (le_foldl_max (names.map List.length) 0).2 _ (List.mem_map_of_mem h)

/-- The long name is none of those that it was made longer than. -/
theorem longName_notMem (fs : FileSystem) (destination : Path) :
    longName fs destination ∉ namesIn fs ++ Path.pieces destination.bytes := by
  intro mem
  have le := length_le_longest mem
  have long : 0 < (Text.Utf8.encode ".netseed-").length := by decide +kernel
  rw [longName, List.length_append, List.length_replicate] at le
  omega

/-- What is there has its last name in use. -/
theorem mem_namesIn {fs : FileSystem} {directory : Location} {name : Name} {entry : Entry}
    (h : fs.get? (directory ++ [name]) = some entry) : name ∈ namesIn fs :=
  List.mem_filterMap.2
    ⟨_, FileSystem.mem_of_get? (List.concat_ne_nil _ _) h, List.getLast?_concat⟩

/-- Staging files have names longer than all others. -/
def long : StagingNames where
  name fs _ destination := longName fs destination
  free fs directory destination := by
    cases h : fs.get? (directory ++ [longName fs destination]) with
    | none => rfl
    | some entry =>
      exact absurd (List.mem_append_left _ (mem_namesIn h)) (longName_notMem fs destination)
  apart fs _ destination mem :=
    longName_notMem fs destination (List.mem_append_right _ mem)

end StagingNames

/-- What the system does by itself. -/
class Circumstances where
  /-- Why a file with these permissions cannot be read under a path. -/
  reading : Path → (mode : Nat) → Option SystemError
  /-- Why the entry that a path names cannot be removed. -/
  removing : Path → Option SystemError
  /-- What goes wrong in writing to a path. -/
  writing : Path → Disturbance
  /-- How staging files are named. -/
  staging : StagingNames

/-- Nothing is refused. -/
instance Circumstances.calm : Circumstances where
  reading _ _ := none
  removing _ := none
  writing _ := .none
  staging := .long

end TargetNet
