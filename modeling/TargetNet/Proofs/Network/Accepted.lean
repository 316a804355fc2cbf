import Mathlib.Data.List.Basic
import Mathlib.Tactic.Common
import TargetNet.Network.Config
import TargetNet.Proofs.Network.Reading

/-!
# Accepted documents

What is known of a state because a document was accepted for it: it is valid, and its parameters are
as values of any kind are read. Those of a state document have distinct keys (`State.parse_spec`),
and those of a config have no tags either (`State.parseConfig_spec`), since no entry may have one.

The readers of both documents share their parts, so what is kept is said once, for any condition `p`
on the values of parameters that reading gives when the values read satisfy `q` (`Yields`).
-/

namespace TargetNet.Network

open Yaml (Value Mode Reading RecordShape fill bind_eq_ok_iff)

/-- Reading a value that satisfies `q`, or a part of it, gives one that satisfies `p`. -/
structure Yields (q p : Value → Prop) : Prop where
  parts : ∀ value, q value → ∀ part ∈ value.parts, q part
  readAny : ∀ value read, q value → value.readAny = .ok read → p read

/-! ## Parameters -/

namespace Params

variable {p : Value → Prop}

lemma all_empty : (∅ : Params).All p := by
  intro e mem
  cases mem

/-- One more parameter that satisfies a condition keeps it. -/
lemma All.insert {params : Params} (all : params.All p) (name : String) {value : Value}
    (h : p value) : (params.insert name value).All p := by
  intro e mem
  rcases mem_insertEntry mem with rfl | mem
  · exact h
  · exact all e mem

/-- Parameters satisfy what the entries do that they are made of. -/
lemma all_ofList {entries : List (String × Value)} (h : ∀ e ∈ entries, p e.2) :
    (Params.ofList entries).All p := by
  suffices ∀ params : Params, params.All p →
      (entries.foldl (fun params e => params.insert e.1 e.2) params).All p from this _ all_empty
  induction entries with
  | nil => exact fun _ all => all
  | cons entry rest ih =>
    intro params all
    exact ih (fun e mem => h e (List.mem_cons_of_mem _ mem)) _
      (all.insert entry.1 (h entry List.mem_cons_self))

/-- Parameters that are read satisfy what reading gives. -/
lemma all_read {q : Value → Prop} (yields : Yields q p) {mode : Mode} {value : Value}
    (hq : q value) {params : Params} (h : Params.read mode value = .ok params) : params.All p := by
  obtain ⟨entries, found, h⟩ := bind_eq_ok_iff.1 h
  obtain ⟨named, each, h⟩ := bind_eq_ok_iff.1 h
  cases h
  refine all_ofList fun e mem => ?_
  obtain ⟨entry, inside, read⟩ := Yaml.exists_mem_of_mapM each mem
  obtain ⟨name, -, read⟩ := bind_eq_ok_iff.1 read
  obtain ⟨inner, any, done⟩ := bind_eq_ok_iff.1 read
  cases done
  exact yields.readAny _ _
    (yields.parts _ hq _ (Value.mem_parts_of_readEntries found inside)) any

end Params

/-- Fields of an interface whose parameters, once they are read, satisfy a condition. -/
def InterfaceFields.AllParams (p : Value → Prop) (fields : InterfaceFields) : Prop :=
  ∀ params ∈ fields.params, params.All p

namespace InterfaceFields

variable {q p : Value → Prop} {fields fields' : InterfaceFields} {mode : Mode} {name : String}
  {value : Value}

/-- The parameters of fields satisfy the condition, also where none are given. -/
lemma AllParams.getD (all : fields.AllParams p) : (fields.params.getD ∅).All p := by
  cases given : fields.params with
  | none => exact Params.all_empty
  | some params => exact all params given

/-- Reading a field of a device keeps what parameters satisfy. -/
lemma AllParams.setDevice (yields : Yields q p) (all : fields.AllParams p) (hq : q value)
    (h : fields.setDevice mode name value = .ok fields') : fields'.AllParams p := by
  unfold InterfaceFields.setDevice at h
  split at h
  all_goals first
    | obtain ⟨read, filled, h⟩ := bind_eq_ok_iff.1 h
      cases h
    | cases h
  · exact all
  · exact all
  · exact all
  · obtain ⟨params, read, rfl⟩ := Yaml.exists_of_fill filled
    rintro _ ⟨⟩
    exact Params.all_read yields hq read
  · exact all
  · exact all

/-- Reading a field of an interface keeps what parameters satisfy. -/
lemma AllParams.set (yields : Yields q p) (all : fields.AllParams p) (hq : q value)
    (h : fields.set mode name value = .ok fields') : fields'.AllParams p := by
  unfold InterfaceFields.set at h
  split at h
  · obtain ⟨kind, -, h⟩ := bind_eq_ok_iff.1 h
    cases h
    exact all
  · exact all.setDevice yields hq h

lemma allParams_empty : AllParams p {} := by
  rintro _ ⟨⟩

end InterfaceFields

section Documents

variable {q p : Value → Prop}

/-! ## State documents -/

/-- The parameters of an interface that is read satisfy what reading gives. -/
lemma Interface.all_read (yields : Yields q p) {value : Value} (hq : q value)
    {interface : Interface} (h : Interface.read value = .ok interface) :
    interface.params.All p := by
  obtain ⟨fields, read, h⟩ := bind_eq_ok_iff.1 h
  obtain ⟨name, -, h⟩ := bind_eq_ok_iff.1 h
  obtain ⟨kind, -, h⟩ := bind_eq_ok_iff.1 h
  cases h
  have all : fields.AllParams p :=
    RecordShape.read_keeps (InterfaceFields.AllParams p)
      (fun _ _ part _ inside all set => all.set yields (yields.parts _ hq part inside) set)
      InterfaceFields.allParams_empty read
  exact all.getD

/-- Fields of a state whose interfaces, once they are read, satisfy a condition. -/
def StateFields.AllParams (p : Value → Prop) (fields : StateFields) : Prop :=
  ∀ interfaces ∈ fields.interfaces, ∀ interface ∈ interfaces, interface.params.All p

/-- Reading a field of a state keeps what parameters satisfy. -/
lemma StateFields.AllParams.set (yields : Yields q p) {fields fields' : StateFields} {name : String}
    {value : Value} (all : fields.AllParams p) (hq : q value)
    (h : fields.set name value = .ok fields') : fields'.AllParams p := by
  unfold StateFields.set at h
  split at h
  all_goals first
    | obtain ⟨read, filled, h⟩ := bind_eq_ok_iff.1 h
      cases h
    | cases h
  · exact all
  · obtain ⟨interfaces, read, rfl⟩ := Yaml.exists_of_fill filled
    rintro _ ⟨⟩ interface mem
    obtain ⟨part, inside, read⟩ := Value.exists_part_of_readList read mem
    exact Interface.all_read yields (yields.parts _ hq part inside) read
  · exact all
  · exact all
  · exact all

/-- The parameters of a state that is read satisfy what reading gives. -/
lemma State.all_read (yields : Yields q p) {value : Value} (hq : q value) {state : State}
    (h : State.read value = .ok state) : state.AllParams p := by
  obtain ⟨fields, read, h⟩ := bind_eq_ok_iff.1 h
  cases h
  have all : fields.AllParams p :=
    RecordShape.read_keeps (StateFields.AllParams p)
      (fun _ _ part _ inside all set => all.set yields (yields.parts _ hq part inside) set)
      (by rintro _ ⟨⟩) read
  intro interface mem
  cases given : fields.interfaces with
  | none =>
    rw [given] at mem
    cases mem
  | some interfaces =>
    rw [given] at mem
    exact all interfaces given interface mem

/-! ## Config documents -/

/-- An entry of a config whose parameters satisfy a condition. -/
def ConfigEntry.AllParams (p : Value → Prop) : ConfigEntry → Prop
  | .physical device | .bond device _ | .bridge device _ | .vlan device _ _ => device.params.All p
  | .nameserver _ _ | .route _ => True

/-- The parameters of a device are those among its fields. -/
lemma InterfaceFields.AllParams.device {fields : InterfaceFields} (all : fields.AllParams p)
    {device : Device} (h : fields.device = .ok device) : device.params.All p := by
  obtain ⟨name, -, h⟩ := bind_eq_ok_iff.1 h
  cases h
  exact all.getD

/-- The parameters of a device that is read satisfy what reading gives. -/
lemma Device.all_read (yields : Yields q p) {value : Value} (hq : q value) {device : Device}
    (h : Device.read value = .ok device) : device.params.All p := by
  obtain ⟨fields, read, h⟩ := bind_eq_ok_iff.1 h
  have all : fields.AllParams p :=
    RecordShape.read_keeps (InterfaceFields.AllParams p)
      (fun _ _ part _ inside all set => all.setDevice yields (yields.parts _ hq part inside) set)
      InterfaceFields.allParams_empty read
  exact all.device h

/-- The parameters of a device with fields of its kind satisfy what reading gives. -/
lemma all_readShared (yields : Yields q p) {own : List String} {entries : List (Value × Value)}
    (hq : q (.mapping entries)) {device : Device} (h : readShared own entries = .ok device) :
    device.params.All p := by
  obtain ⟨fields, read, h⟩ := bind_eq_ok_iff.1 h
  have all : fields.AllParams p := by
    refine Yaml.foldlM_keeps (InterfaceFields.AllParams p) (fun s entry s' mem hs step => ?_)
      InterfaceFields.allParams_empty read
    have part := yields.parts _ hq entry.2 (List.mem_map_of_mem mem)
    rw [InterfaceFields.setShared] at step
    split at step
    · split at step
      · cases step
        exact hs
      · exact hs.setDevice yields part step
    · cases step
      exact hs
  exact all.device h

/-- What has named entries is a mapping. -/
lemma eq_of_namedEntries {title : String} {value : Value} {entries : List (Value × Value)}
    (h : namedEntries title value = .ok entries) : value = .mapping entries := by
  cases value with
  | mapping entries' =>
    cases h
    rfl
  | _ => cases h

/-- The parameters of a device that lists others satisfy what reading gives. -/
lemma all_readGroup (yields : Yields q p) {title list : String} {value : Value} (hq : q value)
    {device : Device} {members : List String}
    (h : readGroup title list value = .ok (device, members)) : device.params.All p := by
  obtain ⟨entries, named, h⟩ := bind_eq_ok_iff.1 h
  obtain ⟨found, -, h⟩ := bind_eq_ok_iff.1 h
  obtain ⟨members', -, h⟩ := bind_eq_ok_iff.1 h
  obtain ⟨device', shared, h⟩ := bind_eq_ok_iff.1 h
  cases h
  rw [eq_of_namedEntries named] at hq
  exact all_readShared yields hq shared

/-- The parameters of a vlan satisfy what reading gives. -/
lemma all_readVlan (yields : Yields q p) {value : Value} (hq : q value) {device : Device}
    {link : String} {id : UInt16} (h : readVlan value = .ok (device, link, id)) :
    device.params.All p := by
  obtain ⟨entries, named, h⟩ := bind_eq_ok_iff.1 h
  obtain ⟨fields, -, h⟩ := bind_eq_ok_iff.1 h
  obtain ⟨link', -, h⟩ := bind_eq_ok_iff.1 h
  obtain ⟨id', -, h⟩ := bind_eq_ok_iff.1 h
  obtain ⟨device', shared, h⟩ := bind_eq_ok_iff.1 h
  cases h
  rw [eq_of_namedEntries named] at hq
  exact all_readShared yields hq shared

end Documents

/-! ### Tags -/

mutual

/-- There are no marks to take off a value without tags. -/
theorem unmark_of_no_tag {value : Value} (h : hasTag value = false) : value.unmark = value := by
  cases value with
  | sequence items => rw [Value.unmark, unmarkItems_of_no_tag h]
  | mapping entries => rw [Value.unmark, unmarkEntries_of_no_tag h]
  | tagged name value => cases h
  | _ => rfl

/-- There are no marks to take off items without tags. -/
theorem unmarkItems_of_no_tag {items : List Value} (h : anyHasTag items = false) :
    Value.unmarkItems items = items := by
  cases items with
  | nil => rfl
  | cons item rest =>
    rw [anyHasTag, Bool.or_eq_false_iff] at h
    rw [Value.unmarkItems, unmark_of_no_tag h.1, unmarkItems_of_no_tag h.2]

/-- There are no marks to take off entries without tags. -/
theorem unmarkEntries_of_no_tag {entries : List (Value × Value)}
    (h : anyEntryHasTag entries = false) : Value.unmarkEntries entries = entries := by
  cases entries with
  | nil => rfl
  | cons entry rest =>
    rw [anyEntryHasTag, Bool.or_eq_false_iff, Bool.or_eq_false_iff] at h
    rw [Value.unmarkEntries, unmark_of_no_tag h.1.1, unmark_of_no_tag h.1.2,
      unmarkEntries_of_no_tag h.2]

end

/-- A value of a parameter that comes from a config: with no marks and with distinct keys. -/
def IsPlain (value : Value) : Prop :=
  value.unmark = value ∧ value.hasDistinctKeys

/-- There are no marks to take off plain parameters. -/
lemma Params.unmark_of_plain {params : Params} (plain : params.All IsPlain) :
    params.unmark = params := by
  obtain ⟨entries, sorted⟩ := params
  have same (e : String × Value) (inside : e ∈ entries) : (e.1, e.2.unmark) = e := by
    rw [(plain e inside).1]
  rw [Params.unmark, Params.mk.injEq, List.map_congr_left same, List.map_id']

/-- Plain parameters can be read. -/
lemma Params.isReadable_of_plain {params : Params} (plain : params.All IsPlain) :
    params.IsReadable := by
  intro e inside
  obtain ⟨unmarked, distinct⟩ := plain e inside
  rw [unmarked]
  exact distinct

/-- There are no marks to take off a state with plain parameters. -/
lemma State.unmark_of_plain {state : State} (plain : state.AllParams IsPlain) :
    state.unmark = state := by
  have interface (i : Interface) (mem : i ∈ state.interfaces) : i.unmark = i := by
    rw [Interface.unmark, Params.unmark_of_plain (plain i mem)]
  rw [State.unmark, List.map_congr_left interface, List.map_id']

/-- Values have a tag if one of them has. -/
lemma anyHasTag_eq (items : List Value) : anyHasTag items = items.any hasTag := by
  induction items with
  | nil => rfl
  | cons item rest ih => rw [anyHasTag, List.any_cons, ih]

/-- Entries have a tag if a key or a value has. -/
lemma anyEntryHasTag_eq (entries : List (Value × Value)) :
    anyEntryHasTag entries = entries.any fun e => hasTag e.1 || hasTag e.2 := by
  induction entries with
  | nil => rfl
  | cons entry rest ih => rw [anyEntryHasTag, List.any_cons, ih]

/-- Any value of parameters has distinct keys once it is read. -/
lemma yields_distinct : Yields (fun _ => True) fun value => value.hasDistinctKeys where
  parts _ _ _ _ := trivial
  readAny value read _ h := by
    rw [Value.readAny_eq, Value.readIf] at h
    split at h
    · cases h
      assumption
    · cases h

/-- Without tags, values are read as they are. -/
lemma yields_plain : Yields (fun value => hasTag value = false) IsPlain where
  parts value h part mem := by
    unfold Value.parts at mem
    cases value with
    | sequence items =>
      rw [hasTag, anyHasTag_eq, List.any_eq_false] at h
      exact Bool.eq_false_iff.2 (h part mem)
    | mapping entries =>
      rw [hasTag, anyEntryHasTag_eq, List.any_eq_false] at h
      obtain ⟨entry, inside, rfl⟩ := List.mem_map.1 mem
      have free := h entry inside
      rw [Bool.not_eq_true, Bool.or_eq_false_iff] at free
      exact free.2
    | tagged name value => cases h
    | _ => cases mem
  readAny value read free h := by
    have distinct := yields_distinct.readAny value read trivial h
    rw [Value.readAny_eq, Value.readIf, unmark_of_no_tag free] at h
    split at h
    · cases h
      exact ⟨unmark_of_no_tag free, distinct⟩
    · cases h

/-- A value that is not refused for tags has none. -/
lemma no_tag_of_refuseTags {value : Value} {done : Unit} (h : refuseTags value = .ok done) :
    hasTag value = false := by
  rw [refuseTags] at h
  split at h
  · cases h
  · exact Bool.eq_false_iff.2 ‹_›

/-- No tags are left among the entries besides the kind. -/
lemma no_tag_of_splitKind {entries rest : List (Value × Value)} {found kind : Option EntryKind}
    (h : splitKind found entries = .ok (kind, rest)) : anyEntryHasTag rest = false := by
  induction entries generalizing found rest with
  | nil =>
    cases h
    rfl
  | cons entry entries ih =>
    obtain ⟨key, value⟩ := entry
    rw [splitKind] at h
    obtain ⟨_, first, h⟩ := bind_eq_ok_iff.1 h
    split at h
    · obtain ⟨found', -, h⟩ := bind_eq_ok_iff.1 h
      exact ih h
    · obtain ⟨_, second, h⟩ := bind_eq_ok_iff.1 h
      obtain ⟨⟨kind', others⟩, split, h⟩ := bind_eq_ok_iff.1 h
      cases h
      rw [anyEntryHasTag, no_tag_of_refuseTags first, no_tag_of_refuseTags second, ih split]
      rfl

/-- No tags are left in an entry besides its kind. -/
lemma no_tag_of_takeKind {value rest : Value} {kind : EntryKind}
    (h : takeKind value = .ok (kind, rest)) : hasTag rest = false := by
  unfold takeKind at h
  split at h
  · obtain ⟨⟨found, others⟩, split, h⟩ := bind_eq_ok_iff.1 h
    obtain ⟨kind, -, h⟩ := bind_eq_ok_iff.1 h
    cases h
    exact no_tag_of_splitKind split
  · cases h
  · obtain ⟨kind, -, h⟩ := bind_eq_ok_iff.1 h
    obtain ⟨_, free, h⟩ := bind_eq_ok_iff.1 h
    cases h
    exact no_tag_of_refuseTags free
  · cases h

/-- The parameters of an entry of a config are plain. -/
lemma ConfigEntry.all_read {value : Value} {entry : ConfigEntry}
    (h : ConfigEntry.read value = .ok entry) : entry.AllParams IsPlain := by
  obtain ⟨⟨kind, rest⟩, taken, h⟩ := bind_eq_ok_iff.1 h
  have free := no_tag_of_takeKind taken
  cases kind with
  | device kind =>
    cases kind with
    | physical =>
      obtain ⟨device, read, h⟩ := bind_eq_ok_iff.1 h
      cases h
      exact Device.all_read yields_plain free read
    | bond =>
      obtain ⟨⟨device, members⟩, read, h⟩ := bind_eq_ok_iff.1 h
      cases h
      exact all_readGroup yields_plain free read
    | bridge =>
      obtain ⟨⟨device, ports⟩, read, h⟩ := bind_eq_ok_iff.1 h
      cases h
      exact all_readGroup yields_plain free read
    | vlan =>
      obtain ⟨⟨device, link, id⟩, read, h⟩ := bind_eq_ok_iff.1 h
      cases h
      exact all_readVlan yields_plain free read
  | nameserver =>
    obtain ⟨fields, read, h⟩ := bind_eq_ok_iff.1 h
    cases h
    trivial
  | route =>
    obtain ⟨route, read, h⟩ := bind_eq_ok_iff.1 h
    cases h
    trivial

/-! ### The state of a config -/

namespace State

/-- Setting a text as a parameter keeps parameters plain. -/
lemma all_setParam {interfaces : List Interface} (all : ∀ i ∈ interfaces, i.params.All IsPlain)
    (owner name text : String) :
    ∀ i ∈ setParam interfaces owner name (.string text), i.params.All IsPlain := by
  induction interfaces with
  | nil => exact all
  | cons interface rest ih =>
    obtain ⟨first, others⟩ := List.forall_mem_cons.1 all
    rw [setParam]
    split
    · exact List.forall_mem_cons.2 ⟨first.insert name ⟨rfl, rfl⟩, others⟩
    · exact List.forall_mem_cons.2 ⟨first, ih others⟩

/-- Putting members under their bond keeps parameters plain. -/
lemma all_enslave {interfaces : List Interface} (all : ∀ i ∈ interfaces, i.params.All IsPlain)
    (bond : String) (members : List String) :
    ∀ i ∈ enslave interfaces bond members, i.params.All IsPlain := by
  rw [enslave]
  induction members generalizing interfaces with
  | nil => exact all
  | cons name rest ih => exact ih (all_setParam all name _ bond)

/-- Taking in an entry keeps parameters plain. -/
lemma AllParams.add {state state' : State} {entry : ConfigEntry} (all : state.AllParams IsPlain)
    (given : entry.AllParams IsPlain) (h : state.add entry = .ok state') :
    state'.AllParams IsPlain := by
  have last {interfaces : List Interface} {interface : Interface}
      (others : ∀ i ∈ interfaces, i.params.All IsPlain) (own : interface.params.All IsPlain) :
      ∀ i ∈ interfaces ++ [interface], i.params.All IsPlain := by
    intro i mem
    rcases List.mem_append.1 mem with mem | mem
    · exact others i mem
    · rw [List.mem_singleton.1 mem]
      exact own
  cases entry with
  | physical device =>
    cases h
    exact last all given
  | bond device members =>
    obtain ⟨_, -, h⟩ := bind_eq_ok_iff.1 h
    cases h
    exact last (all_enslave all _ _) (given.insert _ ⟨rfl, rfl⟩)
  | bridge device ports =>
    obtain ⟨_, -, h⟩ := bind_eq_ok_iff.1 h
    cases h
    exact last all (given.insert _ ⟨rfl, rfl⟩)
  | vlan device link id =>
    obtain ⟨_, -, h⟩ := bind_eq_ok_iff.1 h
    cases h
    exact last all ((given.insert _ ⟨rfl, rfl⟩).insert _ ⟨rfl, rfl⟩)
  | nameserver addresses search =>
    cases h
    exact all
  | route route =>
    cases h
    exact all

/-- Taking in entries one after another keeps parameters plain. -/
lemma AllParams.addAll {state state' : State} {entries : List ConfigEntry}
    (all : state.AllParams IsPlain) (given : ∀ entry ∈ entries, entry.AllParams IsPlain)
    (h : state.addAll entries = .ok state') : state'.AllParams IsPlain := by
  induction entries generalizing state with
  | nil =>
    cases h
    exact all
  | cons entry rest ih =>
    obtain ⟨first, others⟩ := List.forall_mem_cons.1 given
    obtain ⟨middle, added, h⟩ := bind_eq_ok_iff.1 h
    exact ih (all.add first added) others h

/-- Checking a state does not change it, and it is valid then. -/
lemma eq_of_checked {state state' : State} (h : state.checked = .ok state') :
    state' = state ∧ state.validate = .ok () := by
  rw [checked] at h
  split at h
  · cases h
    exact ⟨rfl, ‹_›⟩
  · cases h

/-- A state that comes from entries is valid, and its parameters are plain. -/
lemma ofEntries_spec {entries : List ConfigEntry} {state : State}
    (given : ∀ entry ∈ entries, entry.AllParams IsPlain) (h : ofEntries entries = .ok state) :
    state.validate = .ok () ∧ state.AllParams IsPlain := by
  obtain ⟨made, added, h⟩ := bind_eq_ok_iff.1 h
  obtain ⟨rfl, valid⟩ := eq_of_checked h
  have empty : AllParams IsPlain {} := by
    intro interface mem
    cases mem
  exact ⟨valid, empty.addAll given added⟩

end State

/-- The parameters of the entries that are read of a config are plain. -/
lemma all_readConfig {value : Value} {entries : List ConfigEntry}
    (h : readConfig value = .ok entries) : ∀ entry ∈ entries, entry.AllParams IsPlain := by
  obtain ⟨fields, read, h⟩ := bind_eq_ok_iff.1 h
  obtain ⟨version, -, h⟩ := bind_eq_ok_iff.1 h
  cases h
  have all : ∀ entries ∈ fields.entries, ∀ entry ∈ entries, entry.AllParams IsPlain := by
    refine RecordShape.read_keeps (fun fields : ConfigFields => ∀ entries ∈ fields.entries,
      ∀ entry ∈ entries, entry.AllParams IsPlain) ?_ (by rintro _ ⟨⟩) read
    intro fields name part fields' _ all set
    change fields.set name part = .ok fields' at set
    unfold ConfigFields.set at set
    split at set
    · obtain ⟨version, -, set⟩ := bind_eq_ok_iff.1 set
      cases set
      exact all
    · obtain ⟨filled, read, set⟩ := bind_eq_ok_iff.1 set
      cases set
      obtain ⟨entries, all, rfl⟩ := Yaml.exists_of_fill read
      rintro _ ⟨⟩ entry mem
      obtain ⟨item, -, read⟩ := Value.exists_part_of_readList all mem
      exact ConfigEntry.all_read read
    · cases set
      exact all
  cases given : fields.entries with
  | none =>
    intro entry mem
    cases mem
  | some entries => exact all entries given

/-- A state that a state text is accepted for is valid, and the values of its parameters have
distinct keys. -/
theorem State.parse_spec {text : String} {state : State} (h : State.parse text = .ok state) :
    state.validate = .ok () ∧ state.AllParams fun value => value.hasDistinctKeys := by
  unfold State.parse at h
  split at h
  · obtain ⟨value, -, h⟩ := bind_eq_ok_iff.1 h
    split at h
    · rename_i read
      obtain ⟨rfl, valid⟩ := State.eq_of_checked h
      exact ⟨valid, State.all_read yields_distinct trivial read⟩
    · cases h
  · cases h

/-- A state that a config text is accepted for is valid, and the values of its parameters have
distinct keys and no tags. -/
theorem State.parseConfig_spec {text : String} {state : State}
    (h : State.parseConfig text = .ok state) :
    state.validate = .ok () ∧ state.AllParams IsPlain := by
  obtain ⟨entries, parsed, h⟩ := bind_eq_ok_iff.1 h
  refine State.ofEntries_spec ?_ h
  unfold parseEntries at parsed
  split at parsed
  · obtain ⟨value, -, parsed⟩ := bind_eq_ok_iff.1 parsed
    obtain ⟨_, -, parsed⟩ := bind_eq_ok_iff.1 parsed
    split at parsed
    · cases parsed
      exact all_readConfig ‹_›
    · cases parsed
  · cases parsed

end TargetNet.Network
