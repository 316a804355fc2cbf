import Mathlib.Data.List.Forall2
import Mathlib.Tactic.Common
import TargetNet.Proofs.Network.AsConfig

/-!
# Configs are read as they were written

Every entry of a config has a written form (`ConfigEntry.toValue`): its kind, the fields that all
devices share, and then those of its kind. A bond, a bridge and a vlan have their entries read twice,
once for either sort of field, and each time the other sort is passed over. What is read of the
written form is the entry (`ConfigEntry.read_toValue`), so a document with the written forms of some
entries gives just these entries (`parseEntries_of_document`).
-/

namespace TargetNet.Network

open Yaml (Value Reading RecordShape fill)

/-! ## Written entries -/

/-- The fields of a device that all devices share. -/
def Device.fields (device : Device) : List (Value × Value) :=
  field "name" (.string device.name) :: (device.interface .physical).laterFields

/-- The fields of an entry without its kind. -/
def ConfigEntry.fields : ConfigEntry → List (Value × Value)
  | .physical device => device.fields
  | .bond device members => device.fields ++ [field "bond_interfaces" (textList members)]
  | .bridge device ports => device.fields ++ [field "bridge_interfaces" (textList ports)]
  | .vlan device link id =>
    device.fields ++ [field "vlan_link" (.string link), field "vlan_id" (.int id.toNat)]
  | .nameserver addresses search =>
    [field "address" (textList addresses), field "search" (textList search)]
  | .route r =>
    field "network" (.string r.network) :: (textField "netmask" r.netmask ++
      field "gateway" (.string r.gateway) :: numberField "metric" r.metric)

/-- The kind of an entry. -/
def ConfigEntry.kind : ConfigEntry → EntryKind
  | .physical _ => .device .physical
  | .bond _ _ => .device .bond
  | .bridge _ _ => .device .bridge
  | .vlan _ _ _ => .device .vlan
  | .nameserver _ _ => .nameserver
  | .route _ => .route

/-- An entry as a value. -/
def ConfigEntry.toValue (entry : ConfigEntry) : Value :=
  asEntry entry.kind (.mapping entry.fields)

/-- The parameters of a device have no tags, and in no mapping two keys that are the same. -/
structure Device.IsPlain (device : Device) : Prop where
  untagged : device.params.All fun value => hasTag value = false
  distinct : device.params.All fun value => value.hasDistinctKeys

/-- The device of an entry, if it has one, has plain parameters. -/
def ConfigEntry.HasPlainParams : ConfigEntry → Prop
  | .physical device | .bond device _ | .bridge device _ | .vlan device _ _ => device.IsPlain
  | .nameserver _ _ | .route _ => True

/-! ## The two sorts of fields -/

section Sorts

variable {own : List String} {shared rest : List (Value × Value)}
  (apart : ∀ name ∈ deviceShape.fields, name ∉ own)

include apart

/-- Fields that all devices share are passed over where the fields of a kind are read. -/
lemma readOwn_shared {δ : Type} (set : δ → String → Value → Reading δ) (record : δ)
    (h : AreFields deviceShape.fields shared) :
    readOwn set own record (shared ++ rest) = readOwn set own record rest := by
  induction shared with
  | nil => rfl
  | cons entry others ih =>
    obtain ⟨⟨name, known, value, rfl, -⟩, later⟩ := List.forall_mem_cons.1 h
    rw [← ih later]
    simp [readOwn, field, apart name known, bind, Except.bind]

omit apart in
/-- Fields of a kind are passed over where the shared ones are read. -/
lemma foldlM_setShared_own (fields : InterfaceFields) (h : AreFields own rest) :
    rest.foldlM (InterfaceFields.setShared own) fields = .ok fields := by
  induction rest with
  | nil => rfl
  | cons entry others ih =>
    obtain ⟨⟨name, known, value, rfl, -⟩, later⟩ := List.forall_mem_cons.1 h
    have passed : fields.setShared own (field name value) = .ok fields := by
      simp [InterfaceFields.setShared, field, known]
    rw [List.foldlM_cons, passed]
    exact ih later

/-- The shared fields are read as in a device that has no others. -/
lemma foldlM_setShared (fields : InterfaceFields) (h : AreFields deviceShape.fields shared) :
    shared.foldlM (InterfaceFields.setShared own) fields =
      deviceShape.readEntries .entry fields shared := by
  induction shared generalizing fields with
  | nil => rfl
  | cons entry others ih =>
    obtain ⟨⟨name, known, value, rfl, -⟩, later⟩ := List.forall_mem_cons.1 h
    have named : deviceShape.fieldOfKey .entry (.string name) = .ok (some name) := by
      simp [RecordShape.fieldOfKey, RecordShape.field?, known]
    have set : fields.setShared own (field name value) = deviceShape.set fields name value := by
      simp [InterfaceFields.setShared, field, apart name known, deviceShape]
    rw [List.foldlM_cons, RecordShape.readEntries, List.foldlM_cons, set]
    simp only [field, named, bind, Except.bind]
    cases deviceShape.set fields name value with
    | error mismatch => rfl
    | ok fields' => exact ih fields' later

/-- What devices share is read past the fields of a kind. -/
lemma readShared_eq (h : AreFields deviceShape.fields shared) (h' : AreFields own rest) :
    readShared own (shared ++ rest) = Device.read (.mapping shared) := by
  rw [readShared, List.foldlM_append, foldlM_setShared apart {} h, Device.read]
  change _ = (deviceShape.readEntries .entry {} shared >>= InterfaceFields.device)
  cases deviceShape.readEntries .entry {} shared with
  | error mismatch => rfl
  | ok fields =>
    have passed := foldlM_setShared_own fields h'
    simp only [passed, bind, Except.bind]

end Sorts

/-! ## Entries are read as they were written -/

/-- The written fields of a device are shared ones. -/
lemma Device.areFields {device : Device} (plain : device.IsPlain) :
    AreFields deviceShape.fields device.fields :=
  .cons (by decide) rfl (Interface.areFields_laterFields plain.untagged)

/-- A device is read as it was written. -/
lemma Device.read_toValue {device : Device} (plain : device.IsPlain) :
    Device.read (.mapping device.fields) = .ok device := by
  let interface : Interface := device.interface .physical
  have all : interface.params.All Network.IsPlain := fun e mem =>
    ⟨unmark_of_no_tag (plain.untagged e mem), plain.distinct e mem⟩
  exact Device.read_fields all

/-- A device that lists other devices is read as it was written. -/
lemma readGroup_toValue {device : Device} (plain : device.IsPlain) {list : String}
    (apart : list ∉ deviceShape.fields) (title : String) (members : List String) :
    readGroup title list (.mapping (device.fields ++ [field list (textList members)])) =
      .ok (device, members) := by
  have apart' : ∀ name ∈ deviceShape.fields, name ∉ [list] := by
    intro name known same
    exact apart (List.mem_singleton.1 same ▸ known)
  have texts : readTexts .entry (textList members) = .ok members :=
    Yaml.Reads.each .entry .string members _ rfl
  have own : readOwn (fun field name value => fill name field (readTexts .entry value)) [list] none
      (device.fields ++ [field list (textList members)]) = .ok (some members) := by
    rw [readOwn_shared apart' _ _ (Device.areFields plain)]
    simp [readOwn, field, fill, texts, bind, Except.bind, pure, Except.pure]
  have shared := readShared_eq apart' (Device.areFields plain)
    (.field List.mem_cons_self (hasTag_textList members))
  rw [Device.read_toValue plain] at shared
  simp [readGroup, namedEntries, own, shared, Yaml.demand, bind, Except.bind, pure, Except.pure]

/-- A number of 16 bits is read as it was written. -/
lemma readUInt16_toNat (n : UInt16) : Value.readUInt16 (.int n.toNat) = .ok n := by
  have bound : n.toNat < UInt16.size := n.toNat_lt
  have below : Value.readBelow UInt16.size "u16" (.int n.toNat) = .ok ⟨n.toNat, bound⟩ := by
    simp [Value.readBelow, Value.untagged, bound]
  rw [Value.readUInt16, below]
  simp [bind, Except.bind, pure, Except.pure]

/-- A vlan is read as it was written. -/
lemma readVlan_toValue {device : Device} (plain : device.IsPlain) (link : String) (id : UInt16) :
    readVlan (.mapping (device.fields ++
      [field "vlan_link" (.string link), field "vlan_id" (.int id.toNat)])) =
      .ok (device, link, id) := by
  have apart : ∀ name ∈ deviceShape.fields, name ∉ ["vlan_link", "vlan_id"] := by decide
  have text : Value.readString (.string link) = .ok link := rfl
  have own : readOwn VlanFields.set ["vlan_link", "vlan_id"] {} (device.fields ++
      [field "vlan_link" (.string link), field "vlan_id" (.int id.toNat)]) =
      .ok { link := some link, id := some id } := by
    rw [readOwn_shared apart _ _ (Device.areFields plain)]
    simp [readOwn, field, VlanFields.set, fill, text, readUInt16_toNat, bind, Except.bind, pure,
      Except.pure]
  have others : AreFields ["vlan_link", "vlan_id"]
      [field "vlan_link" (.string link), field "vlan_id" (.int id.toNat)] :=
    .cons (by decide) rfl (.field (by decide) rfl)
  have shared := readShared_eq apart (Device.areFields plain) others
  rw [Device.read_toValue plain] at shared
  simp [readVlan, namedEntries, own, shared, Yaml.demand, bind, Except.bind, pure, Except.pure]

/-- An entry is read as it was written. -/
lemma ConfigEntry.read_toValue {entry : ConfigEntry} (plain : entry.HasPlainParams) :
    ConfigEntry.read entry.toValue = .ok entry := by
  -- the fields of a kind are none of its name, and have no tags
  have taken (own : List String) (h : AreFields own entry.fields) (other : "type" ∉ own) :
      takeKind entry.toValue = .ok (entry.kind, .mapping entry.fields) :=
    takeKind_asEntry entry.kind other h
  have wider {own names : List String} {entries : List (Value × Value)}
      (h : AreFields own entries) (sub : own ⊆ names) : AreFields names entries := by
    intro e mem
    obtain ⟨name, known, rest⟩ := h e mem
    exact ⟨name, sub known, rest⟩
  cases entry with
  | physical device =>
    rw [ConfigEntry.read, taken _ (Device.areFields plain) (by decide)]
    change (Device.read _ >>= fun device => pure (ConfigEntry.physical device)) = _
    rw [ConfigEntry.fields, Device.read_toValue plain]
    rfl
  | bond device members =>
    have fields : AreFields (deviceShape.fields ++ ["bond_interfaces"])
        (ConfigEntry.bond device members).fields :=
      (wider (Device.areFields plain) (List.subset_append_left _ _)).append
        (.field (by decide) (hasTag_textList members))
    rw [ConfigEntry.read, taken _ fields (by decide)]
    change (readGroup _ _ _ >>= fun read => pure (ConfigEntry.bond read.1 read.2)) = _
    rw [ConfigEntry.fields, readGroup_toValue plain (by decide)]
    rfl
  | bridge device ports =>
    have fields : AreFields (deviceShape.fields ++ ["bridge_interfaces"])
        (ConfigEntry.bridge device ports).fields :=
      (wider (Device.areFields plain) (List.subset_append_left _ _)).append
        (.field (by decide) (hasTag_textList ports))
    rw [ConfigEntry.read, taken _ fields (by decide)]
    change (readGroup _ _ _ >>= fun read => pure (ConfigEntry.bridge read.1 read.2)) = _
    rw [ConfigEntry.fields, readGroup_toValue plain (by decide)]
    rfl
  | vlan device link id =>
    have fields : AreFields (deviceShape.fields ++ ["vlan_link", "vlan_id"])
        (ConfigEntry.vlan device link id).fields :=
      (wider (Device.areFields plain) (List.subset_append_left _ _)).append
        (.cons (by decide) rfl (.field (by decide) rfl))
    rw [ConfigEntry.read, taken _ fields (by decide)]
    change (readVlan _ >>= fun read =>
      pure (ConfigEntry.vlan read.1 read.2.1 read.2.2)) = _
    rw [ConfigEntry.fields, readVlan_toValue plain]
    rfl
  | nameserver addresses search => exact ConfigEntry.read_dns ⟨addresses, search⟩
  | route r => exact ConfigEntry.read_route r

/-! ## Configs are read as they were written -/

/-- A document with the written forms of entries gives these entries. -/
lemma entriesOf_document {entries : List ConfigEntry}
    (plain : ∀ entry ∈ entries, entry.HasPlainParams) :
    entriesOf (asConfig (entries.map ConfigEntry.toValue)) = .ok entries := by
  refine State.entriesOf_asConfig ?_
  rw [List.forall₂_map_left_iff]
  exact List.forall₂_same.2 fun entry mem => ConfigEntry.read_toValue (plain entry mem)

/-- A text of such a document is parsed as these entries, whatever devices are among them. -/
theorem parseEntries_of_document {text : String} {entries : List ConfigEntry}
    (plain : ∀ entry ∈ entries, entry.HasPlainParams)
    (read : Yaml.readDocument text = .ok (asConfig (entries.map ConfigEntry.toValue))) :
    parseEntries text = .ok entries := by
  unfold parseEntries
  rw [read]
  exact entriesOf_document plain

end TargetNet.Network
