import TargetNet.Path
import TargetNet.FileSystem.Fault

/-!
# File systems

A file system is a finite map from locations to entries, and a current directory. A location is the
list of names from the root down, so two locations are equal exactly when they are the same place;
paths, with their dots and links, are turned into locations by looking them up.

`get?` is the view through which every change is described: `get?_set` and `get?_erase` say what a
change does there.
-/

namespace TargetNet

/-- The place of a directory entry: the names from the root down. -/
abbrev Location := List Name

/-- What a directory can hold. -/
inductive Entry where
  /-- A regular file with its permission bits. -/
  | file (content : ByteArray) (mode : Nat)
  | directory
  /-- A symbolic link and the path it holds. -/
  | link (goal : Path)

instance : DecidableEq Entry
  | .file ⟨c⟩ m, .file ⟨d⟩ n =>
    if h : c = d ∧ m = n then isTrue (by rw [h.1, h.2])
    else isFalse fun e => h (by injection e with e₁ e₂; injection e₁ with e₁; exact ⟨e₁, e₂⟩)
  | .directory, .directory => isTrue rfl
  | .link p, .link q =>
    if h : p = q then isTrue (h ▸ rfl) else isFalse fun e => h (by injection e)
  | .file _ _, .directory => isFalse nofun
  | .file _ _, .link _ => isFalse nofun
  | .directory, .file _ _ => isFalse nofun
  | .directory, .link _ => isFalse nofun
  | .link _, .file _ _ => isFalse nofun
  | .link _, .directory => isFalse nofun

/-- Entries by location, and where relative paths start. -/
structure FileSystem where
  entries : List (Location × Entry)
  current : Location

namespace FileSystem

/-- The entry at a location. The root is always a directory. -/
def get? (fs : FileSystem) (location : Location) : Option Entry :=
  if location = [] then some .directory
  else (fs.entries.find? (·.1 = location)).map (·.2)

/-- Whether a directory is at this location. -/
def isDirectoryAt (fs : FileSystem) (location : Location) : Bool :=
  fs.get? location == some .directory

/-- The entries without the one at a location. -/
def erase (fs : FileSystem) (location : Location) : FileSystem :=
  { fs with entries := fs.entries.filter (·.1 ≠ location) }

/-- The file system with this entry at a location. -/
def set (fs : FileSystem) (location : Location) (entry : Entry) : FileSystem :=
  { fs with entries := (location, entry) :: fs.entries.filter (·.1 ≠ location) }

@[simp] theorem get?_root (fs : FileSystem) : fs.get? [] = some .directory := rfl

/-- What is seen at a location other than the root is one of the entries. -/
theorem mem_of_get? {fs : FileSystem} {location : Location} {entry : Entry} (ne : location ≠ [])
    (h : fs.get? location = some entry) : (location, entry) ∈ fs.entries := by
  rw [get?, if_neg ne] at h
  obtain ⟨e, found, rfl⟩ := Option.map_eq_some_iff.1 h
  have here : e.1 = location := by simpa using List.find?_some found
  rw [← here]
  exact List.mem_of_find?_eq_some found

/-- Leaving out one location does not matter to what is found at another one. -/
theorem find?_filter_ne {entries : List (Location × Entry)} {location other : Location}
    (h : location ≠ other) :
    (entries.filter (·.1 ≠ other)).find? (·.1 = location) = entries.find? (·.1 = location) := by
  induction entries with
  | nil => rfl
  | cons e rest ih =>
    by_cases he : e.1 = other
    · have : ¬ e.1 = location := fun hl => h (hl.symm.trans he)
      simp_all
    · by_cases hl : e.1 = location <;> simp_all

theorem find?_filter_self {entries : List (Location × Entry)} {location : Location} :
    (entries.filter (·.1 ≠ location)).find? (·.1 = location) = none := by
  simp [List.find?_eq_none]

/-- A change is seen at its own location. -/
theorem get?_set_self (fs : FileSystem) {location : Location} (h : location ≠ []) (entry : Entry) :
    (fs.set location entry).get? location = some entry := by
  simp [get?, set, h]

/-- A change is seen nowhere else. -/
theorem get?_set_of_ne (fs : FileSystem) {location other : Location} (h : other ≠ location)
    (entry : Entry) : (fs.set location entry).get? other = fs.get? other := by
  have h' : ¬ location = other := fun e => h e.symm
  simp only [get?, set, List.find?_cons, h', decide_false, find?_filter_ne h]

/-- What was taken away is gone. -/
theorem get?_erase_self (fs : FileSystem) {location : Location} (h : location ≠ []) :
    (fs.erase location).get? location = none := by
  simp only [get?, erase, h, find?_filter_self, if_false, Option.map_none]

/-- Nothing else went with it. -/
theorem get?_erase_of_ne (fs : FileSystem) {location other : Location} (h : other ≠ location) :
    (fs.erase location).get? other = fs.get? other := by
  simp only [get?, erase, find?_filter_ne h]

@[simp] theorem current_set (fs : FileSystem) (location : Location) (entry : Entry) :
    (fs.set location entry).current = fs.current := rfl

@[simp] theorem current_erase (fs : FileSystem) (location : Location) :
    (fs.erase location).current = fs.current := rfl

end FileSystem

end TargetNet
