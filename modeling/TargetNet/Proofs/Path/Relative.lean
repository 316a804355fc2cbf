import TargetNet.Proofs.Path

/-!
# Paths below a directory

What a path leads through is seen on the pieces of its text between slashes (`pieces_eq_splitOn`): those
that are empty or a dot lead nowhere, and the others remain (`remaining`). A path is accepted if it does
not start at the root, does not go up, and something remains of it (`relative_eq_ok_iff`). Read in a
directory, its components come after those of the directory (`components_join`).
-/

namespace TargetNet.Path

/-- The pieces of a path that lead on: those that are neither empty nor a dot. -/
def remaining (path : Path) : List Name :=
  (path.bytes.splitOn slash).filter fun piece => piece ≠ [] ∧ piece ≠ [dot]

/-! ## Pieces -/

/-- Joining names puts slashes between them. -/
lemma joinNames_eq_intercalate (names : List Name) : joinNames names = [slash].intercalate names := by
  induction names with
  | nil => rfl
  | cons name rest ih =>
    cases rest with
    | nil => simp [joinNames, List.intercalate]
    | cons next rest =>
      rw [joinNames_cons name (List.cons_ne_nil _ _), ih]
      simp [List.intercalate]

/-- The pieces of a text are what slashes split it into. -/
lemma pieces_eq_splitOn (bytes : List UInt8) : pieces bytes = bytes.splitOn slash := by
  have split := List.splitOn_intercalate slash (fun _ mem => slash_notMem_of_mem_pieces mem)
    (pieces_ne_nil bytes)
  rwa [← joinNames_eq_intercalate, joinNames_pieces, eq_comm] at split

/-! ## Components -/

/-- Only two dots lead up. -/
lemma ofPiece_eq_up_iff {piece : Name} : ofPiece piece = some .up ↔ piece = [dot, dot] := by
  rw [ofPiece]
  split
  · rename_i idle
    refine iff_of_false (by simp) ?_
    rintro rfl
    exact absurd idle (by decide)
  · split
    · rename_i up
      exact iff_of_true rfl up
    · rename_i other
      exact iff_of_false (by simp) other

/-- A path goes up exactly if one of its pieces is two dots. -/
lemma up_mem_components_iff {path : Path} :
    .up ∈ path.components ↔ [dot, dot] ∈ path.bytes.splitOn slash := by
  have notFirst : Component.up ∉ path.start := by
    rw [start]
    split
    · decide
    · split <;> decide
  rw [components, List.mem_append, or_iff_right notFirst, List.mem_filterMap, pieces_eq_splitOn]
  simp only [ofPiece_eq_up_iff, exists_eq_right]

/-- Empty pieces stand for nothing. -/
lemma filterMap_named (path : Path) :
    path.named.filterMap ofPiece = (path.bytes.splitOn slash).filterMap ofPiece := by
  have empty : ofPiece [] = none := rfl
  rw [named, pieces_eq_splitOn, List.filterMap_filter]
  congr 1
  funext piece
  by_cases none : piece = []
  · rw [none, empty]
    rfl
  · rw [if_pos (decide_eq_true none)]

/-- Only pieces that lead on stand for components, but for what the path starts with. -/
lemma components_eq (path : Path) : path.components = path.start ++ path.named.filterMap ofPiece := by
  rw [components, filterMap_named, pieces_eq_splitOn]

/-- What leads on stands for names, where a path does not go up. -/
lemma filterMap_ofPiece {path : Path} (stays : [dot, dot] ∉ path.bytes.splitOn slash) :
    (path.bytes.splitOn slash).filterMap ofPiece = path.remaining.map .name := by
  rw [remaining]
  generalize path.bytes.splitOn slash = pieces at stays ⊢
  induction pieces with
  | nil => rfl
  | cons piece rest ih =>
    rw [List.mem_cons, not_or] at stays
    obtain ⟨notUp, stays⟩ := stays
    by_cases idle : piece = [] ∨ piece = [dot]
    · have none : ofPiece piece = none := if_pos idle
      rw [List.filterMap_cons_none none, List.filter_cons_of_neg (by simpa [imp_iff_not_or] using idle),
        ih stays]
    · have name : ofPiece piece = some (.name piece) := by
        rw [ofPiece, if_neg idle, if_neg fun up => notUp up.symm]
      rw [List.filterMap_cons_some name, List.filter_cons_of_pos (by simpa using idle), ih stays,
        List.map_cons]

/-- Where a path does not go up, the names in it are the pieces that remain. -/
lemma names_components {path : Path} (stays : [dot, dot] ∉ path.bytes.splitOn slash) :
    names path.components = path.remaining := by
  have noStart : names path.start = [] := by
    rw [start]
    split
    · rfl
    · split <;> rfl
  rw [components, pieces_eq_splitOn, filterMap_ofPiece stays, names, List.filterMap_append, ← names,
    noStart, List.nil_append, List.filterMap_map]
  exact List.filterMap_some

/-! ## Canonical spellings -/

/-- A path is refused if it is absolute, goes up or has nothing left, looked at in this order. -/
lemma relative_eq (path : Path) :
    path.relative =
      if path.isAbsolute then .error (.absolute path)
      else if [dot, dot] ∈ path.bytes.splitOn slash then .error (.ascends path)
      else if path.remaining = [] then .error .empty
      else .ok (ofNames path.remaining) := by
  rw [relative]
  split
  · rfl
  · by_cases up : [dot, dot] ∈ path.bytes.splitOn slash
    · rw [if_pos (up_mem_components_iff.2 up), if_pos up]
    · rw [if_neg (mt up_mem_components_iff.1 up), if_neg up, names_components up]
      cases kept : path.remaining with
      | nil => rfl
      | cons first rest => exact (if_neg (List.cons_ne_nil _ _)).symm

/-- What it takes for a path to be accepted. -/
lemma relative_eq_ok_iff {path result : Path} :
    path.relative = .ok result ↔ path.isAbsolute = false ∧
      [dot, dot] ∉ path.bytes.splitOn slash ∧ path.remaining ≠ [] ∧
      result = ofNames path.remaining := by
  rw [relative_eq]
  split
  · rename_i absolute
    simp [absolute]
  · rename_i notAbsolute
    split
    · rename_i up
      simp [up]
    · rename_i stays
      split
      · rename_i nothing
        simp [nothing]
      · rename_i some
        simp [notAbsolute, stays, some, eq_comm]

/-- The pieces that remain of a path that does not go up lead on as they are. -/
lemma isProper_of_mem_remaining {path : Path} (stays : [dot, dot] ∉ path.bytes.splitOn slash) :
    ∀ piece ∈ path.remaining, IsProper piece := by
  intro piece mem
  obtain ⟨there, lead⟩ := List.mem_filter.1 mem
  obtain ⟨ne_nil, ne_dot⟩ := of_decide_eq_true lead
  refine ⟨ne_nil, ne_dot, fun up => stays (up ▸ there), ?_⟩
  rw [← pieces_eq_splitOn] at there
  exact slash_notMem_of_mem_pieces there

/-- An accepted path is spelled with proper names. -/
lemma relative_eq_ok {path relative : Path} (h : path.relative = .ok relative) :
    ∃ names, names ≠ [] ∧ (∀ name ∈ names, IsProper name) ∧ relative = ofNames names := by
  obtain ⟨-, stays, some, rfl⟩ := relative_eq_ok_iff.1 h
  exact ⟨path.remaining, some, isProper_of_mem_remaining stays, rfl⟩

section

variable {names : List Name} (some : names ≠ []) (proper : ∀ name ∈ names, IsProper name)

include some proper

lemma splitOn_ofNames : (ofNames names).bytes.splitOn slash = names := by
  rw [← pieces_eq_splitOn]
  exact pieces_joinNames some fun name mem => (proper name mem).free

lemma remaining_ofNames : (ofNames names).remaining = names := by
  rw [remaining, splitOn_ofNames some proper, List.filter_eq_self]
  exact fun name mem => decide_eq_true ⟨(proper name mem).ne_nil, (proper name mem).ne_dot⟩

/-- A canonical spelling is its own. -/
lemma relative_ofNames : (ofNames names).relative = .ok (ofNames names) := by
  refine relative_eq_ok_iff.2 ⟨isAbsolute_ofNames proper, fun up => ?_, ?_, ?_⟩
  · rw [splitOn_ofNames some proper] at up
    exact (proper _ up).ne_dots rfl
  · rwa [remaining_ofNames some proper]
  · rw [remaining_ofNames some proper]

/-- The components of a path of names are its names. -/
lemma components_ofNames : (ofNames names).components = names.map .name := by
  have noStart : (ofNames names).start = [] := by
    rw [start, isAbsolute_ofNames proper, pieces_eq_splitOn, splitOn_ofNames some proper,
      if_neg Bool.false_ne_true, if_neg]
    exact fun first => (proper _ (List.mem_of_head? first)).ne_dot rfl
  rw [components_eq, noStart, named_ofNames some proper, List.nil_append, ← List.filterMap_eq_map]
  exact List.filterMap_congr fun name mem => (proper name mem).ofPiece

end

/-! ## Read in a directory -/

/-- A path in a directory starts as the directory does. -/
lemma start_join {base path : Path} (relative : path.isAbsolute = false) (ne : base.bytes ≠ []) :
    (base.join path).start = base.start := by
  have first : (pieces (base.join path).bytes).head? = (pieces base.bytes).head? := by
    rw [join, if_neg (by simp [relative, ne])]
    split
    · rename_i slashed
      obtain ⟨init, ends⟩ : ∃ init, base.bytes = init ++ [slash] :=
        List.getLast?_eq_some_iff.1 (by simpa [endsInSlash] using slashed)
      obtain ⟨name, rest, split⟩ := List.exists_cons_of_ne_nil (pieces_ne_nil init)
      rw [ends, List.append_assoc, List.singleton_append, pieces_append, pieces_append, split]
      rfl
    · obtain ⟨name, rest, split⟩ := List.exists_cons_of_ne_nil (pieces_ne_nil base.bytes)
      rw [pieces_append, split]
      rfl
  rw [start, start, isAbsolute_join relative ne, first]

/-- The components of a path that is read in a directory come after those of the directory, without a
dot that it may start with. -/
lemma components_join {base path : Path} (relative : path.isAbsolute = false)
    (ne : base.bytes ≠ []) :
    (base.join path).components = base.components ++ path.named.filterMap ofPiece := by
  rw [components_eq, start_join relative ne, named_join relative, List.filterMap_append,
    ← List.append_assoc, ← components_eq]

/-- In a directory, a path and its canonical spelling are the same. -/
lemma same_join_relative {base path below : Path} (accepted : path.relative = .ok below)
    (ne : base.bytes ≠ []) : (base.join below).same (base.join path) = true := by
  obtain ⟨relative, stays, some, rfl⟩ := relative_eq_ok_iff.1 accepted
  have proper := isProper_of_mem_remaining stays
  obtain ⟨relative', stays', -, -⟩ := relative_eq_ok_iff.1 (relative_ofNames some proper)
  rw [same, beq_iff_eq, components_join relative ne, components_join relative' ne, filterMap_named,
    filterMap_named, filterMap_ofPiece stays, filterMap_ofPiece stays', remaining_ofNames some proper]

end TargetNet.Path
