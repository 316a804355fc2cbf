import Mathlib.Data.List.Forall2
import Mathlib.Tactic.Common
import TargetNet.Proofs.Yaml.Marks

/-!
# Reading up to marks of tags

A value that has been through a text may have lost marks of its tags. `Reads read value a` says that
nothing else matters to a reader: it makes `a` of every value that differs from `value` at most
there. There is one law for each way to read, and `RecordShape.Fills` is the same for the entries of
a record, taken one after another (`Fills.append`). The laws hold in documents and in entries alike.
-/

namespace TargetNet.Yaml

/-- Two steps succeed if the first does, and the second with what it gives. -/
lemma bind_eq_ok_iff {ε α β : Type} {first : Except ε α} {next : α → Except ε β} {b : β} :
    first >>= next = .ok b ↔ ∃ a, first = .ok a ∧ next a = .ok b := by
  cases first <;> simp [bind, Except.bind]

/-- What every step keeps, a whole run keeps. -/
lemma foldlM_keeps {ε ι σ : Type} {step : σ → ι → Except ε σ} (P : σ → Prop) {items : List ι}
    (keeps : ∀ s item s', item ∈ items → P s → step s item = .ok s' → P s') {s s' : σ} (start : P s)
    (run : items.foldlM step s = .ok s') : P s' := by
  induction items generalizing s with
  | nil =>
    cases run
    exact start
  | cons item rest ih =>
    rw [List.foldlM_cons] at run
    obtain ⟨middle, first, run⟩ := bind_eq_ok_iff.1 run
    exact ih (fun s item s' mem => keeps s item s' (List.mem_cons_of_mem _ mem))
      (keeps s item middle List.mem_cons_self start first) run

/-- A list is read if each item is. -/
lemma mapM_eq_ok_iff {ι α : Type} {read : ι → Reading α} {items : List ι} {as : List α} :
    items.mapM read = .ok as ↔ List.Forall₂ (fun item a => read item = .ok a) items as := by
  induction items generalizing as with
  | nil => cases as <;> simp [pure, Except.pure]
  | cons item rest ih =>
    rw [List.mapM_cons]
    cases first : read item with
    | error mismatch => cases as <;> simp [first, bind, Except.bind]
    | ok a =>
      cases others : rest.mapM read with
      | error mismatch => cases as <;> simp [first, ← ih, others, bind, Except.bind]
      | ok bs => cases as <;> simp [first, ← ih, others, bind, Except.bind, pure, Except.pure]

/-- The reader makes `a` of a value, whatever the marks of its tags. -/
def Reads {α : Type} (read : Value → Reading α) (value : Value) (a : α) : Prop :=
  ∀ given : Value, given.unmark = value.unmark → read given = .ok a

namespace Value

lemma eq_of_unmark_string {given : Value} {s : String} (h : given.unmark = .string s) :
    given = .string s := by
  cases given <;> simp_all [unmark]

lemma eq_of_unmark_int {given : Value} {n : Int} (h : given.unmark = .int n) :
    given = .int n := by
  cases given <;> simp_all [unmark]

/-- Only a sequence is one when its marks are off. -/
lemma eq_of_unmark_sequence {given : Value} {items : List Value}
    (h : given.unmark = .sequence items) :
    ∃ found, given = .sequence found ∧ unmarkItems found = items := by
  cases given <;> simp_all [unmark]

/-- Only a mapping is one when its marks are off. -/
lemma eq_of_unmark_mapping {given : Value} {entries : List (Value × Value)}
    (h : given.unmark = .mapping entries) :
    ∃ found, given = .mapping found ∧ unmarkEntries found = entries := by
  cases given <;> simp_all [unmark]

end Value

open Value

namespace Reads

variable {α : Type}

/-- A text is read as such. -/
lemma string (s : String) : Reads readString (.string s) s := by
  intro given h
  rw [eq_of_unmark_string h]
  rfl

/-- A number of 32 bits is read as such. -/
lemma uint32 (n : UInt32) : Reads readUInt32 (.int n.toNat) n := by
  intro given h
  rw [eq_of_unmark_int h]
  have bound : n.toNat < UInt32.size := n.toNat_lt
  have below : readBelow UInt32.size "u32" (.int n.toNat) = .ok ⟨n.toNat, bound⟩ := by
    simp [readBelow, untagged, bound]
  rw [readUInt32, below]
  simp [bind, Except.bind, pure, Except.pure]

/-- What is there is read under an option. -/
lemma option {read : Value → Reading α} {value : Value} {a : α} (h : Reads read value a)
    (there : value.unmark ≠ .null) : Reads (readOption read) value (some a) := by
  intro given e
  have result := h given e
  cases given with
  | null => exact absurd e.symm there
  | _ => simp [readOption, result, Functor.map, Except.map]

/-- A list is read item by item. -/
lemma list {mode : Mode} {read : Value → Reading α} {items : List Value} {as : List α}
    (h : List.Forall₂ (Reads read) items as) : Reads (readList mode read) (.sequence items) as := by
  intro given e
  obtain ⟨found, rfl, same⟩ := eq_of_unmark_sequence e
  have items : readItems mode (.sequence found) = .ok found := by
    rw [readItems]
    rfl
  rw [readList, items]
  refine mapM_eq_ok_iff.2 ?_
  clear items e
  induction h generalizing found with
  | nil =>
    cases found with
    | nil => exact .nil
    | cons _ _ => cases same
  | cons first _ ih =>
    cases found with
    | nil => cases same
    | cons item rest =>
      rw [unmarkItems, unmarkItems, List.cons.injEq] at same
      exact .cons (first item same.1) (ih rest same.2)

/-- What is written item by item is read item by item. -/
lemma map {β : Type} {read : Value → Reading α} {write : β → Value} {f : β → α} {bs : List β}
    (mode : Mode) (h : ∀ b ∈ bs, Reads read (write b) (f b)) :
    Reads (readList mode read) (.sequence (bs.map write)) (bs.map f) := by
  apply list
  rw [List.forall₂_map_left_iff, List.forall₂_map_right_iff]
  exact List.forall₂_same.2 h

/-- A list whose items are read as they were written is read as it was written. -/
lemma each {read : Value → Reading α} {write : α → Value} (mode : Mode)
    (h : ∀ a, Reads read (write a) a) (as : List α) :
    Reads (readList mode read) (.sequence (as.map write)) as := by
  have all := map (f := id) mode fun a (_ : a ∈ as) => h a
  rwa [List.map_id] at all

/-- A name is read as what it names. -/
lemma variant {variants : Variants α} (mode : Mode) {name : String} {a : α}
    (named : variants.ofName name = .ok a) : Reads (variants.read mode) (.string name) a := by
  intro given h
  rw [eq_of_unmark_string h]
  cases mode <;> exact named

end Reads

namespace RecordShape

variable {δ : Type} {shape : RecordShape δ} {mode : Mode} {record record' record'' : δ}

/-- The entries fill a record as far as another one, whatever the marks of their tags. -/
def Fills (shape : RecordShape δ) (mode : Mode) (record : δ) (entries : List (Value × Value))
    (record' : δ) : Prop :=
  ∀ given, unmarkEntries given = unmarkEntries entries →
    shape.readEntries mode record given = .ok record'

namespace Fills

/-- No entries leave a record as it is. -/
lemma nil : shape.Fills mode record [] record := by
  intro given h
  cases given with
  | nil => rfl
  | cons _ _ => cases h

/-- Entries fill a record one part after the other. -/
lemma append {entries entries' : List (Value × Value)} (h : shape.Fills mode record entries record')
    (h' : shape.Fills mode record' entries' record'') :
    shape.Fills mode record (entries ++ entries') record'' := by
  intro given e
  rw [unmarkEntries_append, unmarkEntries_eq_map given] at e
  obtain ⟨first, rest, rfl, e, e'⟩ := List.map_eq_append_iff.1 e
  have first := h first ((unmarkEntries_eq_map first).trans e)
  have rest := h' rest ((unmarkEntries_eq_map rest).trans e')
  rw [readEntries, List.foldlM_append]
  rw [readEntries] at first rest
  rw [first]
  exact rest

/-- One entry fills a record before the others do. -/
lemma cons {entry : Value × Value} {entries : List (Value × Value)}
    (h : shape.Fills mode record [entry] record') (h' : shape.Fills mode record' entries record'') :
    shape.Fills mode record (entry :: entries) record'' :=
  h.append h'

/-- An entry under the name of a field fills the field with what its value is read as. -/
lemma field {α : Type} {read : Value → Reading α} {value : Value} {a : α} (name : String)
    (known : shape.field? name = some name) (reads : Reads read value a)
    (set : ∀ given, read given = .ok a → shape.set record name given = .ok record') :
    shape.Fills mode record [(.string name, value)] record' := by
  intro given e
  rw [unmarkEntries_eq_map given, unmarkEntries, unmarkEntries] at e
  obtain ⟨⟨key, inner⟩, rfl, same⟩ := List.map_eq_singleton_iff.1 e
  obtain ⟨text, same⟩ := Prod.mk.inj same
  obtain rfl : key = .string name := eq_of_unmark_string text
  have result := set inner (reads inner same)
  cases mode <;>
    simp [readEntries, fieldOfKey, untagged, known, result, bind, Except.bind, pure, Except.pure]

end Fills

/-- A record is read off its entries. -/
lemma Fills.reads {empty : δ} {entries : List (Value × Value)}
    (h : shape.Fills mode empty entries record) :
    Reads (shape.read mode empty) (.mapping entries) record := by
  intro given e
  obtain ⟨found, rfl, same⟩ := eq_of_unmark_mapping e
  exact h found same

end RecordShape

/-! ## What is inside of what is read -/

/-- A field is filled with what was read. -/
lemma exists_of_fill {α : Type} {name : String} {field filled : Option α} {read : Reading α}
    (h : fill name field read = .ok filled) : ∃ a, read = .ok a ∧ filled = some a := by
  rw [fill] at h
  split at h
  · cases h
  · cases read with
    | error mismatch => cases h
    | ok a =>
      cases h
      exact ⟨a, rfl, rfl⟩

/-- The values that a list or the fields of a mapping consist of. -/
def Value.parts (value : Value) : List Value :=
  match value.untagged with
  | .sequence items => items
  | .mapping entries => entries.map (·.2)
  | _ => []

/-- The items that are read of a value are parts of it. -/
lemma Value.mem_parts_of_readItems {mode : Mode} {value : Value} {items : List Value}
    (h : value.readItems mode = .ok items) {item : Value} (mem : item ∈ items) :
    item ∈ value.parts := by
  unfold readItems at h
  unfold parts
  generalize value.untagged = inner at h ⊢
  cases inner with
  | sequence items' =>
    cases h
    exact mem
  | null =>
    cases mode <;> cases h
    cases mem
  | _ => cases h

/-- The values of the entries that are read of a value are parts of it. -/
lemma Value.mem_parts_of_readEntries {mode : Mode} {value : Value} {entries : List (Value × Value)}
    (h : value.readEntries mode = .ok entries) {entry : Value × Value} (mem : entry ∈ entries) :
    entry.2 ∈ value.parts := by
  unfold readEntries at h
  unfold parts
  generalize value.untagged = inner at h ⊢
  cases inner with
  | mapping entries' =>
    cases h
    exact List.mem_map_of_mem mem
  | null =>
    cases mode <;> cases h
    cases mem
  | _ => cases h

/-- Each of many things that were read was read from one of the items. -/
lemma exists_mem_of_mapM {ι α : Type} {read : ι → Reading α} {items : List ι} {as : List α}
    (h : items.mapM read = .ok as) {a : α} (mem : a ∈ as) : ∃ item ∈ items, read item = .ok a := by
  have each := mapM_eq_ok_iff.1 h
  clear h
  induction each with
  | nil => cases mem
  | cons first _ ih =>
    rcases List.mem_cons.1 mem with rfl | mem
    · exact ⟨_, List.mem_cons_self, first⟩
    · obtain ⟨item, mem, read⟩ := ih mem
      exact ⟨item, List.mem_cons_of_mem _ mem, read⟩

/-- What is read in a list is read from its parts. -/
lemma Value.exists_part_of_readList {α : Type} {mode : Mode} {read : Value → Reading α}
    {value : Value} {as : List α} (h : value.readList mode read = .ok as) {a : α} (mem : a ∈ as) :
    ∃ part ∈ value.parts, read part = .ok a := by
  obtain ⟨items, found, all⟩ := bind_eq_ok_iff.1 h
  obtain ⟨item, inside, read⟩ := exists_mem_of_mapM all mem
  exact ⟨item, mem_parts_of_readItems found inside, read⟩

namespace RecordShape

variable {δ : Type} {shape : RecordShape δ} {P : δ → Prop}

/-- What setting any field keeps, reading the fields one after another keeps. -/
lemma readItems_keeps {index : Nat} {fields : List String} {items : List Value}
    (keeps : ∀ record name part record', part ∈ items → P record →
      shape.set record name part = .ok record' → P record')
    {record record' : δ} (start : P record)
    (h : shape.readItems index record fields items = .ok record') : P record' := by
  induction fields generalizing index items record with
  | nil =>
    cases items with
    | nil =>
      cases h
      exact start
    | cons _ _ => cases h
  | cons name names ih =>
    cases items with
    | nil =>
      rw [readItems] at h
      split at h
      · cases h
      · exact ih keeps start h
    | cons item rest =>
      rw [readItems] at h
      obtain ⟨middle, first, h⟩ := bind_eq_ok_iff.1 h
      exact ih (fun record name part record' mem => keeps record name part record'
        (List.mem_cons_of_mem _ mem)) (keeps _ _ _ _ List.mem_cons_self start first) h

/-- What setting any field from a part of the value keeps, reading the record keeps. -/
lemma read_keeps (P : δ → Prop) {mode : Mode} {value : Value}
    (keeps : ∀ record name part record', part ∈ value.parts → P record →
      shape.set record name part = .ok record' → P record')
    {empty record : δ} (start : P empty) (h : shape.read mode empty value = .ok record) :
    P record := by
  unfold read at h
  unfold Value.parts at keeps
  generalize value.untagged = inner at h keeps
  cases inner with
  | mapping entries =>
    refine foldlM_keeps P (fun s entry s' mem hs step => ?_) start h
    obtain ⟨named, -, step⟩ := bind_eq_ok_iff.1 step
    cases named with
    | none =>
      cases step
      exact hs
    | some name => exact keeps s name entry.2 s' (List.mem_map_of_mem mem) hs step
  | sequence items =>
    cases mode with
    | document => cases h
    | entry => exact readItems_keeps keeps start h
  | null =>
    cases mode <;> cases h
    exact start
  | _ => cases h

end RecordShape

end TargetNet.Yaml
