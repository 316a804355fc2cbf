import Mathlib.Data.List.Basic
import Mathlib.Tactic.Common
import TargetNet.Yaml.Reading

/-!
# Marks of tags

Reading a value of any kind takes an exclamation mark off every tag. `unmark` is what it makes of a
value, and it refuses exactly the values whose keys this makes the same (`readAny_eq`). A tag is
settled if there is no second mark to take off. If all are, `unmark` gives the same value again
(`unmark_same`), and keys that differ go on to differ (`hasDistinctKeys_unmark`).
-/

namespace TargetNet.Yaml

/-- A tag whose name keeps no mark once one is off. -/
def isSettledTag (name : String) : Bool :=
  unmarked (unmarked name) == unmarked name

namespace Value

mutual

/-- The value with a mark less on every tag. -/
def unmark : Value → Value
  | .sequence items => .sequence (unmarkItems items)
  | .mapping entries => .mapping (unmarkEntries entries)
  | .tagged name value => .tagged (unmarked name) (unmark value)
  | .null => .null
  | .bool b => .bool b
  | .int n => .int n
  | .float x => .float x
  | .string s => .string s

/-- The items with a mark less on every tag. -/
def unmarkItems : List Value → List Value
  | [] => []
  | item :: rest => unmark item :: unmarkItems rest

/-- The entries with a mark less on every tag. -/
def unmarkEntries : List (Value × Value) → List (Value × Value)
  | [] => []
  | (key, value) :: rest => (unmark key, unmark value) :: unmarkEntries rest

end

mutual

/-- Whether all tags in a value are settled. -/
def isSettled : Value → Bool
  | .sequence items => areSettled items
  | .mapping entries => entriesAreSettled entries
  | .tagged name value => isSettledTag name && isSettled value
  | _ => true

/-- Whether all tags in some items are settled. -/
def areSettled : List Value → Bool
  | [] => true
  | item :: rest => isSettled item && areSettled rest

/-- Whether all tags in some entries are settled. -/
def entriesAreSettled : List (Value × Value) → Bool
  | [] => true
  | (key, value) :: rest => isSettled key && isSettled value && entriesAreSettled rest

end

mutual

/-- Whether no mapping in a value has two keys that are the same. -/
def hasDistinctKeys : Value → Bool
  | .sequence items => haveDistinctKeys items
  | .mapping entries => entriesHaveDistinctKeys [] entries
  | .tagged _ value => hasDistinctKeys value
  | _ => true

/-- Whether no mapping in some items has two keys that are the same. -/
def haveDistinctKeys : List Value → Bool
  | [] => true
  | item :: rest => hasDistinctKeys item && haveDistinctKeys rest

/-- Whether no mapping in some entries has two keys that are the same, and their own keys are
distinct among those of the entries `before`. -/
def entriesHaveDistinctKeys (before : List (Value × Value)) : List (Value × Value) → Bool
  | [] => true
  | (key, value) :: rest =>
    hasDistinctKeys key && !hasKey before key && hasDistinctKeys value &&
      entriesHaveDistinctKeys (before ++ [(key, value)]) rest

end

/-! ## Reading values of any kind -/

/-- What is read under a condition on its keys. -/
def readIf {α : Type} (distinct : Bool) (read : α) : Reading α :=
  if distinct then .ok read else .error .duplicateKey

mutual

/-- A value of any kind is read with a mark less on every tag, unless two keys become the same. -/
theorem readAny_eq (value : Value) :
    value.readAny = readIf value.unmark.hasDistinctKeys value.unmark := by
  cases value with
  | sequence items =>
    rw [readAny, readAnyItems_eq items, unmark, hasDistinctKeys]
    cases haveDistinctKeys (unmarkItems items) <;> rfl
  | mapping entries =>
    rw [readAny, readAnyEntries_eq [] entries, unmark, hasDistinctKeys]
    cases entriesHaveDistinctKeys [] (unmarkEntries entries) <;> rfl
  | tagged name value =>
    rw [readAny, readAny_eq value, unmark, hasDistinctKeys]
    cases hasDistinctKeys (unmark value) <;> rfl
  | null => rfl
  | bool b => rfl
  | int n => rfl
  | float x => rfl
  | string s => rfl

/-- Items are read with a mark less on every tag, unless two keys become the same. -/
theorem readAnyItems_eq (items : List Value) :
    readAnyItems items = readIf (haveDistinctKeys (unmarkItems items)) (unmarkItems items) := by
  cases items with
  | nil => rfl
  | cons item rest =>
    rw [readAnyItems, readAny_eq item, readAnyItems_eq rest, unmarkItems, haveDistinctKeys]
    cases hasDistinctKeys (unmark item) <;>
      cases haveDistinctKeys (unmarkItems rest) <;> rfl

/-- Entries are read with a mark less on every tag, after those that were read before. -/
theorem readAnyEntries_eq (before entries : List (Value × Value)) :
    readAnyEntries before entries =
      readIf (entriesHaveDistinctKeys before (unmarkEntries entries))
        (before ++ unmarkEntries entries) := by
  cases entries with
  | nil => simp [readAnyEntries, unmarkEntries, entriesHaveDistinctKeys, readIf]
  | cons entry rest =>
    obtain ⟨key, value⟩ := entry
    rw [readAnyEntries, readAny_eq key, unmarkEntries, entriesHaveDistinctKeys]
    cases hasDistinctKeys (unmark key) with
    | false => rfl
    | true =>
      simp only [readIf, if_true, bind, Except.bind]
      cases hasKey before (unmark key) with
      | true => rfl
      | false =>
        rw [readAny_eq value]
        cases hasDistinctKeys (unmark value) with
        | false => rfl
        | true =>
          have step := readAnyEntries_eq (before ++ [(unmark key, unmark value)]) rest
          rw [List.append_assoc] at step
          exact step

end

/-- Marks of tags do not matter to looking up a name. -/
lemma lookup?_unmark (name : String) (entries : List (Value × Value)) :
    lookup? name (unmarkEntries entries) = (lookup? name entries).map unmark := by
  have key (value : Value) : value.unmark.same (.string name) = value.same (.string name) := by
    cases value <;> simp [unmark, same]
  induction entries with
  | nil => rfl
  | cons entry rest ih =>
    rw [lookup?, lookup?] at ih ⊢
    rw [unmarkEntries, List.find?_cons, key, List.find?_cons]
    cases entry.1.same (.string name) with
    | true => rfl
    | false => exact ih

/-! ## Settled tags -/

/-- The marks of items are taken off one by one. -/
lemma unmarkItems_eq_map (items : List Value) : unmarkItems items = items.map unmark := by
  induction items with
  | nil => rfl
  | cons item rest ih => rw [unmarkItems, List.map_cons, ih]

/-- Items are settled if each is. -/
lemma areSettled_iff {items : List Value} :
    areSettled items ↔ ∀ item ∈ items, item.isSettled := by
  induction items with
  | nil => simp [areSettled]
  | cons item rest ih => rw [areSettled, Bool.and_eq_true, ih, List.forall_mem_cons]

/-- The marks of entries are taken off their keys and values. -/
lemma unmarkEntries_eq_map (entries : List (Value × Value)) :
    unmarkEntries entries = entries.map fun entry => (entry.1.unmark, entry.2.unmark) := by
  induction entries with
  | nil => rfl
  | cons entry rest ih => rw [unmarkEntries, List.map_cons, ih]

lemma length_unmarkEntries (entries : List (Value × Value)) :
    (unmarkEntries entries).length = entries.length := by
  rw [unmarkEntries_eq_map, List.length_map]

lemma unmarkEntries_append (entries entries' : List (Value × Value)) :
    unmarkEntries (entries ++ entries') = unmarkEntries entries ++ unmarkEntries entries' := by
  simp [unmarkEntries_eq_map]

/-- An entry is in a mapping exactly if it is with marks off, when that holds for the values
compared. -/
lemma includesEntry_unmark {key value : Value} {entries : List (Value × Value)}
    (hk : ∀ b : Value, b.isSettled → same key.unmark b.unmark = same key b)
    (hv : ∀ b : Value, b.isSettled → same value.unmark b.unmark = same value b)
    (settled : entriesAreSettled entries) :
    includesEntry key.unmark value.unmark (unmarkEntries entries) =
      includesEntry key value entries := by
  induction entries with
  | nil => rw [unmarkEntries, includesEntry, includesEntry]
  | cons entry rest ih =>
    rw [entriesAreSettled, Bool.and_eq_true, Bool.and_eq_true] at settled
    rw [unmarkEntries, includesEntry, includesEntry, hk _ settled.1.1, hv _ settled.1.2,
      ih settled.2]

mutual

/-- Taking marks off settled tags makes no two values the same that were not. -/
theorem same_unmark {a : Value} (ha : a.isSettled) (b : Value) (hb : b.isSettled) :
    same a.unmark b.unmark = same a b := by
  cases a with
  | sequence items =>
    cases b with
    | sequence items' =>
      rw [isSettled] at ha hb
      rw [unmark, unmark, same, same, sameItems_unmark ha items' hb]
    | _ => simp [unmark, same]
  | mapping entries =>
    cases b with
    | mapping entries' =>
      rw [isSettled] at ha hb
      rw [unmark, unmark, same, same, includes_unmark ha entries' hb, length_unmarkEntries,
        length_unmarkEntries]
    | _ => simp [unmark, same]
  | tagged name value =>
    cases b with
    | tagged name' value' =>
      rw [isSettled, Bool.and_eq_true] at ha hb
      rw [unmark, unmark, same, same, same_unmark ha.2 value' hb.2, eq_of_beq ha.1,
        eq_of_beq hb.1]
    | _ => simp [unmark, same]
  | _ => cases b <;> simp [unmark, same]

/-- Taking marks off settled tags makes no two lists the same that were not. -/
theorem sameItems_unmark {as : List Value} (ha : areSettled as) (bs : List Value)
    (hb : areSettled bs) : sameItems (unmarkItems as) (unmarkItems bs) = sameItems as bs := by
  cases as with
  | nil => cases bs <;> simp [unmarkItems, sameItems]
  | cons a as =>
    cases bs with
    | nil => simp [unmarkItems, sameItems]
    | cons b bs =>
      rw [areSettled, Bool.and_eq_true] at ha hb
      rw [unmarkItems, unmarkItems, sameItems, sameItems, same_unmark ha.1 b hb.1,
        sameItems_unmark ha.2 bs hb.2]

/-- Taking marks off settled tags makes no mapping include another one that it did not. -/
theorem includes_unmark {as : List (Value × Value)} (ha : entriesAreSettled as)
    (bs : List (Value × Value)) (hb : entriesAreSettled bs) :
    includes (unmarkEntries as) (unmarkEntries bs) = includes as bs := by
  cases as with
  | nil => rw [unmarkEntries, includes, includes]
  | cons entry as =>
    obtain ⟨key, value⟩ := entry
    rw [entriesAreSettled, Bool.and_eq_true, Bool.and_eq_true] at ha
    rw [unmarkEntries, includes, includes,
      includesEntry_unmark (same_unmark ha.1.1) (same_unmark ha.1.2) hb,
      includes_unmark ha.2 bs hb]

end

/-- Taking marks off settled tags makes no key occur that did not. -/
lemma hasKey_unmark {entries : List (Value × Value)} {key : Value}
    (he : entriesAreSettled entries) (hk : key.isSettled) :
    hasKey (unmarkEntries entries) key.unmark = hasKey entries key := by
  induction entries with
  | nil => rfl
  | cons entry rest ih =>
    rw [entriesAreSettled, Bool.and_eq_true, Bool.and_eq_true] at he
    have ih := ih he.2
    rw [hasKey] at ih ⊢
    rw [unmarkEntries, List.any_cons, ih, same_unmark he.1.1 _ hk]
    rfl

/-- Entries are settled in two parts as they are at once. -/
lemma entriesAreSettled_append (entries entries' : List (Value × Value)) :
    entriesAreSettled (entries ++ entries') =
      (entriesAreSettled entries && entriesAreSettled entries') := by
  induction entries with
  | nil => rfl
  | cons entry rest ih =>
    rw [List.cons_append, entriesAreSettled, entriesAreSettled, ih, ← Bool.and_assoc]

mutual

/-- Taking marks off settled tags keeps keys distinct. -/
theorem hasDistinctKeys_unmark {value : Value} (settled : value.isSettled) :
    hasDistinctKeys value.unmark = hasDistinctKeys value := by
  cases value with
  | sequence items =>
    rw [isSettled] at settled
    rw [unmark, hasDistinctKeys, hasDistinctKeys, haveDistinctKeys_unmark settled]
  | mapping entries =>
    rw [isSettled] at settled
    rw [unmark, hasDistinctKeys, hasDistinctKeys]
    exact @entriesHaveDistinctKeys_unmark [] entries rfl settled
  | tagged name value =>
    rw [isSettled, Bool.and_eq_true] at settled
    rw [unmark, hasDistinctKeys, hasDistinctKeys, hasDistinctKeys_unmark settled.2]
  | _ => rfl

/-- Taking marks off settled tags keeps keys distinct in items. -/
theorem haveDistinctKeys_unmark {items : List Value} (settled : areSettled items) :
    haveDistinctKeys (unmarkItems items) = haveDistinctKeys items := by
  cases items with
  | nil => rfl
  | cons item rest =>
    rw [areSettled, Bool.and_eq_true] at settled
    rw [unmarkItems, haveDistinctKeys, haveDistinctKeys, hasDistinctKeys_unmark settled.1,
      haveDistinctKeys_unmark settled.2]

/-- Taking marks off settled tags keeps keys distinct among entries. -/
theorem entriesHaveDistinctKeys_unmark {before entries : List (Value × Value)}
    (hb : entriesAreSettled before) (settled : entriesAreSettled entries) :
    entriesHaveDistinctKeys (unmarkEntries before) (unmarkEntries entries) =
      entriesHaveDistinctKeys before entries := by
  cases entries with
  | nil => rfl
  | cons entry rest =>
    obtain ⟨key, value⟩ := entry
    rw [entriesAreSettled, Bool.and_eq_true, Bool.and_eq_true] at settled
    obtain ⟨⟨hk, hv⟩, hr⟩ := settled
    -- the entries already seen stay settled as they grow
    have more : entriesAreSettled (before ++ [(key, value)]) := by
      simp [entriesAreSettled_append, entriesAreSettled, hb, hk, hv]
    have rest := entriesHaveDistinctKeys_unmark more hr
    rw [unmarkEntries_append] at rest
    rw [unmarkEntries, entriesHaveDistinctKeys, entriesHaveDistinctKeys,
      hasDistinctKeys_unmark hk, hasKey_unmark hb hk, hasDistinctKeys_unmark hv, ← rest]
    rfl

end

/-- An entry is in a mapping if one is that is the same. -/
lemma includesEntry_of_mem {key value : Value} {entry : Value × Value}
    {entries : List (Value × Value)} (mem : entry ∈ entries) (hk : same key entry.1)
    (hv : same value entry.2) : includesEntry key value entries := by
  induction entries with
  | nil => cases mem
  | cons first rest ih =>
    rw [includesEntry]
    rcases List.mem_cons.1 mem with rfl | mem
    · rw [hk, hv]
      rfl
    · rw [ih mem, Bool.or_true]

mutual

/-- A value with settled tags is the same with a mark less on each. -/
theorem unmark_same {value : Value} (settled : value.isSettled) : value.unmark.same value := by
  cases value with
  | sequence items =>
    rw [isSettled] at settled
    rw [unmark, same]
    exact unmarkItems_same settled
  | mapping entries =>
    rw [isSettled] at settled
    rw [unmark, same, length_unmarkEntries, beq_self_eq_true, Bool.true_and]
    exact unmarkEntries_included settled fun _ mem => mem
  | tagged name value =>
    rw [isSettled, Bool.and_eq_true, isSettledTag] at settled
    rw [unmark, same, settled.1, Bool.true_and]
    exact unmark_same settled.2
  | float x => cases nan : x.isNaN <;> simp [unmark, same, Decimal.Binary64.same, nan]
  | _ => simp [unmark, same]

/-- Items with settled tags are the same with a mark less on each. -/
theorem unmarkItems_same {items : List Value} (settled : areSettled items) :
    sameItems (unmarkItems items) items := by
  cases items with
  | nil => rw [unmarkItems, sameItems]
  | cons item rest =>
    rw [areSettled, Bool.and_eq_true] at settled
    rw [unmarkItems, sameItems, unmark_same settled.1, unmarkItems_same settled.2]
    rfl

/-- Entries with settled tags are in a mapping that has them, with a mark less on each. -/
theorem unmarkEntries_included {entries all : List (Value × Value)}
    (settled : entriesAreSettled entries) (sub : ∀ entry ∈ entries, entry ∈ all) :
    includes (unmarkEntries entries) all := by
  cases entries with
  | nil => rw [unmarkEntries, includes]
  | cons entry rest =>
    obtain ⟨key, value⟩ := entry
    rw [entriesAreSettled, Bool.and_eq_true, Bool.and_eq_true] at settled
    have here := includesEntry_of_mem (sub _ List.mem_cons_self) (unmark_same settled.1.1)
      (unmark_same settled.1.2)
    rw [unmarkEntries, includes, here, Bool.true_and]
    exact unmarkEntries_included settled.2 fun entry mem => sub entry (List.mem_cons_of_mem _ mem)

end

end Value

end TargetNet.Yaml
