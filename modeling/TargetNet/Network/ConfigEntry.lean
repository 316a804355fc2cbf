import TargetNet.Network.StateDocument

/-!
# Entries of a network config

A config is a list of entries: devices of the four kinds, name servers, and routes. The field `type`
says which kind an entry is, and the other fields are read after it is known. There must be no tags in
an entry, and what a document would pass over (null for a list) is an error there.
-/

namespace TargetNet.Network

open Yaml (Value Mode Reading RecordShape Variants fill demand)

/-- The fields that all devices share. -/
structure Device where
  name : String
  mac : Option String := none
  mtu : Option UInt32 := none
  params : Params := ∅
  subnets : List Subnet := []
  deriving Inhabited

/-- An entry of a config. -/
inductive ConfigEntry where
  | physical (device : Device)
  | bond (device : Device) (members : List String)
  | bridge (device : Device) (ports : List String)
  | vlan (device : Device) (link : String) (id : UInt16)
  | nameserver (addresses search : List String)
  | route (route : Route)

/-- The kinds of entries. -/
inductive EntryKind where
  | device (kind : InterfaceKind)
  | nameserver
  | route
  deriving DecidableEq, Repr

/-- The kinds of entries in the order of declaration. -/
def EntryKind.all : List EntryKind :=
  InterfaceKind.all.map .device ++ [.nameserver, .route]

/-- The name of a kind of entry. -/
def EntryKind.name : EntryKind → String
  | .device kind => kind.name
  | .nameserver => "nameserver"
  | .route => "route"

/-- The kinds of entries by name. -/
def entryKinds : Variants EntryKind :=
  ⟨EntryKind.all.map fun kind => (kind.name, kind), EntryKind.all⟩

mutual

/-- Whether there is a tag anywhere in a value. -/
def hasTag : Value → Bool
  | .tagged _ _ => true
  | .sequence items => anyHasTag items
  | .mapping entries => anyEntryHasTag entries
  | _ => false

/-- Whether there is a tag anywhere in one of the values. -/
def anyHasTag : List Value → Bool
  | [] => false
  | value :: rest => hasTag value || anyHasTag rest

/-- Whether there is a tag anywhere in one of the entries. -/
def anyEntryHasTag : List (Value × Value) → Bool
  | [] => false
  | (key, value) :: rest => hasTag key || hasTag value || anyEntryHasTag rest

end

/-- Refuses a value with a tag in it. -/
def refuseTags (value : Value) : Reading Unit :=
  if hasTag value then .error .tagInEntry else .ok ()

/-- Reads the kind of an entry. Its own tag does not matter. -/
def readEntryKind (value : Value) : Reading EntryKind :=
  match value.untagged with
  | .string name => entryKinds.ofName name
  | other => other.mismatch "variant identifier"

/-- The kind among the entries of a mapping, after `found`, and the other entries. -/
def splitKind (found : Option EntryKind) :
    List (Value × Value) → Reading (Option EntryKind × List (Value × Value))
  | [] => .ok (found, [])
  | (key, value) :: rest => do
    refuseTags key
    if key.same (.string "type") then
      let found ← fill "type" found (readEntryKind value)
      splitKind found rest
    else
      refuseTags value
      let (found, rest) ← splitKind found rest
      return (found, (key, value) :: rest)

/-- The kind of an entry and the value of its other fields. An entry may be a list that starts with
the kind. -/
def takeKind (value : Value) : Reading (EntryKind × Value) :=
  match value with
  | .mapping entries => do
    let (found, rest) ← splitKind none entries
    return (← demand "type" found, .mapping rest)
  | .sequence [] => .error (.missingField "type")
  | .sequence (first :: rest) => do
    let kind ← readEntryKind first
    refuseTags (.sequence rest)
    return (kind, .sequence rest)
  | other => other.mismatch "internally tagged enum ConfigEntry"

/-- How a device is read. -/
def deviceShape : RecordShape InterfaceFields where
  title := "struct DeviceEntry"
  fields := ["name", "mac_address", "mtu", "params", "subnets"]
  required := ["name"]
  set := InterfaceFields.setDevice .entry

/-- The device made of some fields. -/
def InterfaceFields.device (fields : InterfaceFields) : Reading Device := do
  let name ← demand "name" fields.name
  return {
    name
    mac := fields.mac.join
    mtu := fields.mtu.join
    params := fields.params.getD ∅
    subnets := fields.subnets.getD [] }

/-- Reads a device without fields of its kind. -/
def Device.read (value : Value) : Reading Device := do
  (← deviceShape.read .entry {} value).device

/-- The entries of a device with fields of its kind, which must be a mapping of names. -/
def namedEntries (title : String) (value : Value) : Reading (List (Value × Value)) :=
  match value with
  | .mapping entries => .ok entries
  | other => other.mismatch title

/-- Reads the fields in `own` out of the entries, through `set`, and refuses keys that name no
field. -/
def readOwn {δ : Type} (set : δ → String → Value → Reading δ) (own : List String) (record : δ)
    (entries : List (Value × Value)) : Reading δ :=
  entries.foldlM (fun record (key, value) =>
    match key with
    | .string name => if own.contains name then set record name value else .ok record
    | .int n => if n < 0 then key.mismatch "field identifier" else .ok record
    | _ => key.mismatch "field identifier") record

/-- Reads an entry of a device into the fields that all devices share, unless it is one in `own`. -/
def InterfaceFields.setShared (own : List String) (fields : InterfaceFields)
    (entry : Value × Value) : Reading InterfaceFields :=
  match entry.1 with
  | .string name =>
    if own.contains name then .ok fields else fields.setDevice .entry name entry.2
  | _ => .ok fields

/-- Reads the fields that all devices share out of the entries of one. -/
def readShared (own : List String) (entries : List (Value × Value)) : Reading Device := do
  let fields ← entries.foldlM (InterfaceFields.setShared own) {}
  fields.device

/-- The fields of a vlan that were read. -/
structure VlanFields where
  link : Option String := none
  id : Option UInt16 := none

/-- Reads a field of a vlan. -/
def VlanFields.set (fields : VlanFields) (name : String) (value : Value) : Reading VlanFields :=
  match name with
  | "vlan_link" => do return { fields with link := ← fill name fields.link value.readString }
  | "vlan_id" => do return { fields with id := ← fill name fields.id value.readUInt16 }
  | _ => .ok fields

/-- Reads a device that lists other devices under the name `list`. -/
def readGroup (title list : String) (value : Value) : Reading (Device × List String) := do
  let entries ← namedEntries title value
  let members ← readOwn (fun field name value => fill name field (readTexts .entry value)) [list]
    none entries
  let members ← demand list members
  return (← readShared [list] entries, members)

/-- Reads a vlan. -/
def readVlan (value : Value) : Reading (Device × String × UInt16) := do
  let own := ["vlan_link", "vlan_id"]
  let entries ← namedEntries "struct VlanEntry" value
  let fields ← readOwn VlanFields.set own {} entries
  let link ← demand "vlan_link" fields.link
  let id ← demand "vlan_id" fields.id
  return (← readShared own entries, link, id)

/-- Reads one text or a list of texts, or nothing. -/
def readOneOrMany (value : Value) : Reading (List String) :=
  match value with
  | .null => .ok []
  | .string text => .ok [text]
  | other =>
    match readTexts .entry other with
    | .ok texts => .ok texts
    | .error _ => .error (.noAlternative "OneOrMany")

/-- The fields of a name server entry that were read. -/
structure NameserverFields where
  addresses : Option (List String) := none
  search : Option (List String) := none

/-- Reads a field of a name server entry. -/
def NameserverFields.set (fields : NameserverFields) (name : String) (value : Value) :
    Reading NameserverFields :=
  match name with
  | "address" => do
    return { fields with addresses := ← fill name fields.addresses (readOneOrMany value) }
  | "search" => do
    return { fields with search := ← fill name fields.search (readOneOrMany value) }
  | _ => .ok fields

/-- How a name server entry is read. -/
def nameserverShape : RecordShape NameserverFields where
  title := "struct NameserverEntry"
  fields := ["address", "search"]
  required := []
  set := NameserverFields.set

/-- Reads an entry. -/
def ConfigEntry.read (value : Value) : Reading ConfigEntry := do
  let (kind, value) ← takeKind value
  match kind with
  | .device .physical => return .physical (← Device.read value)
  | .device .bond =>
    let (device, members) ← readGroup "struct BondEntry" "bond_interfaces" value
    return .bond device members
  | .device .bridge =>
    let (device, ports) ← readGroup "struct BridgeEntry" "bridge_interfaces" value
    return .bridge device ports
  | .device .vlan =>
    let (device, link, id) ← readVlan value
    return .vlan device link id
  | .nameserver =>
    let fields ← nameserverShape.read .entry {} value
    return .nameserver (fields.addresses.getD []) (fields.search.getD [])
  | .route => return .route (← Route.read .entry value)

end TargetNet.Network
