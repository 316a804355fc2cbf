import Mathlib.Data.List.Forall2
import Mathlib.Tactic.Common
import TargetNet.Proofs.Network.Entries

/-!
# States as configs

A state whose interfaces are all physical can be written as a config too (`State.toConfig`): as a
list with its interfaces as they stand in its own document, its resolver settings as one name server
entry, and its routes. The two documents are read through different records, and an entry has its
kind taken out first, but what comes out is the same state (`State.documents_agree`).
-/

namespace TargetNet.Network

open Yaml (Value Mode Reading RecordShape Reads fill bind_eq_ok_iff)

/-! ## Written configs -/

/-- A record as an entry of a kind. -/
def asEntry (kind : EntryKind) : Value → Value
  | .mapping entries => .mapping (field "type" (.string kind.name) :: entries)
  | other => other

/-- Resolver settings as a name server entry. -/
def Dns.toEntry (dns : Dns) : Value :=
  asEntry .nameserver (.mapping
    [field "address" (textList dns.nameservers), field "search" (textList dns.search)])

/-- A route as an entry. -/
def Route.toEntry (route : Route) : Value :=
  asEntry .route route.toValue

/-- A config with these entries. -/
def asConfig (entries : List Value) : Value :=
  .mapping [field "version" (.int 1), field "config" (.sequence entries)]

/-- A state as a config. -/
def State.toConfig (state : State) : Value :=
  asConfig (state.interfaces.map Interface.toValue ++ [state.dns.toEntry] ++
    state.routes.map Route.toEntry)

/-! ## The kind of an entry -/

/-- Entries that are fields with some of these names, and have no tags. -/
def AreFields (names : List String) (entries : List (Value × Value)) : Prop :=
  ∀ e ∈ entries, ∃ name ∈ names, ∃ value, e = field name value ∧ hasTag value = false

namespace AreFields

variable {names : List String} {entries entries' : List (Value × Value)} {name : String}

/-- There are no fields to be wrong about. -/
lemma nil : AreFields names [] :=
  List.forall_mem_nil _

/-- Fields can be put together. -/
lemma append (h : AreFields names entries) (h' : AreFields names entries') :
    AreFields names (entries ++ entries') :=
  List.forall_mem_append.2 ⟨h, h'⟩

/-- A field with a known name and without a tag is one of these. -/
lemma field {value : Value} (known : name ∈ names) (free : hasTag value = false) :
    AreFields names [field name value] :=
  List.forall_mem_singleton.2 ⟨name, known, value, rfl, free⟩

/-- Fields with one more in front are fields. -/
lemma cons {value : Value} (known : name ∈ names) (free : hasTag value = false)
    (h : AreFields names entries) : AreFields names (Network.field name value :: entries) :=
  (field known free).append h

/-- A text gives a field or none. -/
lemma textField (known : name ∈ names) (text : Option String) :
    AreFields names (textField name text) := by
  cases text with
  | none => exact nil
  | some text => exact field known rfl

/-- A number gives a field or none. -/
lemma numberField (known : name ∈ names) (n : Option UInt32) :
    AreFields names (numberField name n) := by
  cases n with
  | none => exact nil
  | some n => exact field known rfl

/-- A mapping of such fields has no tag. -/
lemma no_tag (h : AreFields names entries) : hasTag (.mapping entries) = false := by
  rw [hasTag, anyEntryHasTag_eq, List.any_eq_false]
  intro e mem
  obtain ⟨name, -, value, rfl, free⟩ := h e mem
  simp [Network.field, hasTag, free]

end AreFields

section Kind

/-- A field of another name is left as it is. -/
lemma splitKind_field {name : String} (other : name ≠ "type") {value : Value}
    (free : hasTag value = false) {entries rest : List (Value × Value)}
    {found kind : Option EntryKind} (h : splitKind found entries = .ok (kind, rest)) :
    splitKind found (field name value :: entries) = .ok (kind, field name value :: rest) := by
  have differs : (Value.string name).same (.string "type") = false := by
    simpa [Value.same] using other
  simp [field, splitKind, refuseTags, hasTag, differs, free, h, bind, Except.bind, pure,
    Except.pure]

/-- The name of a kind of entries is read as this kind. -/
lemma entryKinds_ofName (kind : EntryKind) : entryKinds.ofName kind.name = .ok kind := by
  cases kind with
  | device kind => cases kind <;> rfl
  | nameserver => rfl
  | route => rfl

variable (kind : EntryKind) {names : List String} (other : "type" ∉ names)
  {before after : List (Value × Value)}

include other

/-- Once the kind is found, the other fields are left as they are. -/
lemma splitKind_of_found (h : AreFields names after) :
    splitKind (some kind) after = .ok (some kind, after) := by
  induction after with
  | nil => rfl
  | cons entry rest ih =>
    obtain ⟨⟨name, known, value, rfl, free⟩, later⟩ := List.forall_mem_cons.1 h
    exact splitKind_field (fun e => other (e ▸ known)) free (ih later)

/-- The kind is taken out from wherever it stands among the fields. -/
lemma splitKind_eq (h : AreFields names before) (h' : AreFields names after) :
    splitKind none (before ++ field "type" (.string kind.name) :: after) =
      .ok (some kind, before ++ after) := by
  induction before with
  | nil =>
    have read : readEntryKind (.string kind.name) = .ok kind := entryKinds_ofName kind
    have later := splitKind_of_found kind other h'
    simp [field, splitKind, refuseTags, hasTag, Value.same, fill, read, later, bind, Except.bind]
  | cons entry rest ih =>
    obtain ⟨⟨name, known, value, rfl, free⟩, later⟩ := List.forall_mem_cons.1 h
    exact splitKind_field (fun e => other (e ▸ known)) free (ih later)

/-- The kind is taken out of an entry, and its other fields are left. -/
lemma takeKind_eq (h : AreFields names before) (h' : AreFields names after) :
    takeKind (.mapping (before ++ field "type" (.string kind.name) :: after)) =
      .ok (kind, .mapping (before ++ after)) := by
  rw [takeKind, splitKind_eq kind other h h']
  rfl

/-- The kind is taken out of what was made an entry. -/
lemma takeKind_asEntry (h : AreFields names after) :
    takeKind (asEntry kind (.mapping after)) = .ok (kind, .mapping after) :=
  takeKind_eq kind other .nil h

end Kind

/-! ## Written parts have no tags -/

/-- A list of what has no tags has none. -/
lemma hasTag_sequence {α : Type} {write : α → Value} {items : List α}
    (free : ∀ a ∈ items, hasTag (write a) = false) :
    hasTag (.sequence (items.map write)) = false := by
  rw [hasTag, anyHasTag_eq, List.any_map, List.any_eq_false]
  intro a mem
  exact Bool.eq_false_iff.1 (free a mem)

/-- There are no tags in a list of texts. -/
lemma hasTag_textList (texts : List String) : hasTag (textList texts) = false :=
  hasTag_sequence fun _ _ => rfl

/-- A list of texts gives a field or none. -/
lemma AreFields.textListField {names : List String} {name : String} (known : name ∈ names)
    (texts : List String) : AreFields names (textListField name texts) := by
  rw [Network.textListField]
  split
  · exact nil
  · exact field known (hasTag_textList texts)

/-- There are no tags in a subnet. -/
lemma Subnet.hasTag_toValue (subnet : Subnet) : hasTag subnet.toValue = false := by
  refine AreFields.no_tag (?_ : AreFields (subnetShape .entry).fields _)
  refine .cons (by decide) rfl (.append ?_ (.cons (by decide) rfl ?_))
  · exact ((AreFields.textField (by decide) _).append (.textField (by decide) _)).append
      (.textField (by decide) _)
  · exact (AreFields.textListField (by decide) _).append (.textListField (by decide) _)

/-- There are no tags in parameters whose values have none. -/
lemma Params.hasTag_toValue {params : Params} (free : params.All fun value => hasTag value = false) :
    hasTag params.toValue = false := by
  have written : AreFields (params.entries.map (·.1))
      (params.entries.map fun e => field e.1 e.2) := by
    refine List.forall_mem_map.2 fun e mem => ?_
    exact ⟨e.1, List.mem_map_of_mem mem, e.2, rfl, free e mem⟩
  exact written.no_tag

/-- The later fields of an interface are those of a device. -/
lemma Interface.areFields_laterFields {interface : Interface}
    (free : interface.params.All fun value => hasTag value = false) :
    AreFields deviceShape.fields interface.laterFields := by
  have params : AreFields deviceShape.fields
      (if interface.params.isEmpty then [] else [field "params" interface.params.toValue]) := by
    split
    · exact .nil
    · exact .field (by decide) (Params.hasTag_toValue free)
  have subnets : AreFields deviceShape.fields
      [field "subnets" (.sequence (interface.subnets.map Subnet.toValue))] :=
    .field (by decide) (hasTag_sequence fun subnet _ => subnet.hasTag_toValue)
  exact (((AreFields.textField (by decide) interface.mac).append
    (.numberField (by decide) interface.mtu)).append params).append subnets

/-! ## Entries are read as they were written -/

/-- The device that an interface was made of, its kind apart. -/
def Interface.device (interface : Interface) : Device where
  name := interface.name
  mac := interface.mac
  mtu := interface.mtu
  params := interface.params
  subnets := interface.subnets

/-- The shape of devices in entries reads every field of a device. -/
lemma deviceShape_readsDevice : ReadsDevice deviceShape .entry where
  known := by decide
  set _ _ _ _ := rfl

/-- The fields of an interface are read as a device, whatever its kind. -/
lemma Device.read_fields {interface : Interface} (plain : interface.params.All IsPlain) :
    Device.read (.mapping (field "name" (.string interface.name) :: interface.laterFields)) =
      .ok interface.device := by
  obtain ⟨params, same, later⟩ := fills_laterFields deviceShape_readsDevice
    (Params.isReadable_of_plain plain) (some interface.name) none
  have read := ((fills_name deviceShape_readsDevice interface.name).cons later).reads _ rfl
  rw [Params.unmark_of_plain plain] at same
  rw [Device.read, read]
  simp [bind, Except.bind, pure, Except.pure, InterfaceFields.device, Interface.device,
    Yaml.demand, same]

/-- A physical interface is read as the entry of its device. -/
lemma ConfigEntry.read_interface {interface : Interface} (physical : interface.kind = .physical)
    (untagged : interface.params.All fun value => hasTag value = false)
    (plain : interface.params.All IsPlain) :
    ConfigEntry.read interface.toValue = .ok (.physical interface.device) := by
  have name : AreFields deviceShape.fields [field "name" (.string interface.name)] :=
    .field (by decide) rfl
  have taken : takeKind interface.toValue = .ok (.device .physical,
      .mapping (field "name" (.string interface.name) :: interface.laterFields)) := by
    rw [Interface.toValue_eq, physical]
    exact takeKind_eq (.device .physical) (by decide) name
      (Interface.areFields_laterFields untagged)
  rw [ConfigEntry.read, taken]
  change (Device.read _ >>= fun device => pure (ConfigEntry.physical device)) = _
  rw [Device.read_fields plain]
  rfl

/-- Where one text may stand, a list of texts is read as the list. -/
lemma reads_oneOrMany (texts : List String) : Reads readOneOrMany (textList texts) texts := by
  intro given same
  have read : readTexts .entry given = .ok texts := Reads.each .entry .string texts given same
  obtain ⟨found, rfl, -⟩ := Value.eq_of_unmark_sequence same
  simp only [readOneOrMany, read]

/-- Resolver settings are read as a name server entry. -/
lemma ConfigEntry.read_dns (dns : Dns) :
    ConfigEntry.read dns.toEntry = .ok (.nameserver dns.nameservers dns.search) := by
  have taken : takeKind dns.toEntry = .ok (.nameserver, .mapping
      [field "address" (textList dns.nameservers), field "search" (textList dns.search)]) := by
    refine takeKind_asEntry .nameserver (show "type" ∉ nameserverShape.fields by decide) ?_
    exact .cons (by decide) (hasTag_textList _) (.field (by decide) (hasTag_textList _))
  have address : nameserverShape.Fills .entry {} [field "address" (textList dns.nameservers)]
      { addresses := some dns.nameservers } :=
    .field "address" rfl (reads_oneOrMany _) fun given h => by
      simp [nameserverShape, NameserverFields.set, fill, h]
  have search : nameserverShape.Fills .entry { addresses := some dns.nameservers }
      [field "search" (textList dns.search)]
      { addresses := some dns.nameservers, search := some dns.search } :=
    .field "search" rfl (reads_oneOrMany _) fun given h => by
      simp [nameserverShape, NameserverFields.set, fill, h]
  have read := (address.cons search).reads _ rfl
  rw [ConfigEntry.read, taken]
  change (nameserverShape.read _ _ _ >>= fun fields : NameserverFields =>
    pure (ConfigEntry.nameserver (fields.addresses.getD []) (fields.search.getD []))) = _
  rw [read]
  rfl

/-- A route is read as its entry. -/
lemma ConfigEntry.read_route (route : Route) :
    ConfigEntry.read route.toEntry = .ok (.route route) := by
  have taken : takeKind route.toEntry = .ok (.route, route.toValue) := by
    refine takeKind_asEntry .route (show "type" ∉ routeShape.fields by decide) ?_
    refine .cons (by decide) rfl (.append ?_ (.cons (by decide) rfl ?_))
    · exact .textField (by decide) _
    · exact .numberField (by decide) _
  have read := Route.reads_toValue .entry route _ rfl
  rw [ConfigEntry.read, taken]
  change (Route.read .entry _ >>= fun route => pure (ConfigEntry.route route)) = _
  rw [read]
  rfl

/-! ## Both documents of a state -/

namespace State

variable {state : State}

/-- The entries of a state that is written as a config. -/
def entries (state : State) : List ConfigEntry :=
  state.interfaces.map (fun interface => .physical interface.device) ++
    [.nameserver state.dns.nameservers state.dns.search] ++ state.routes.map .route

/-- Parameters with no tags, and in no mapping two keys that are the same. -/
lemma plain_of_untagged (untagged : state.AllParams fun value => hasTag value = false)
    (distinct : state.AllParams fun value => value.hasDistinctKeys) : state.AllParams IsPlain :=
  fun interface mem e inside =>
    ⟨unmark_of_no_tag (untagged interface mem e inside), distinct interface mem e inside⟩

/-- The entries of a config are read one by one. -/
lemma entriesOf_asConfig {values : List Value} {entries : List ConfigEntry}
    (each : List.Forall₂ (fun value entry => ConfigEntry.read value = .ok entry) values entries) :
    entriesOf (asConfig values) = .ok entries := by
  have version : (Value.int 1).readUInt32 = .ok 1 := Reads.uint32 1 _ rfl
  have list : (Value.sequence values).readList .document ConfigEntry.read = .ok entries :=
    Yaml.mapM_eq_ok_iff.2 each
  have fields : configShape.read .document {} (asConfig values) =
      .ok { version := some 1, entries := some entries } := by
    change configShape.readEntries .document {} _ = _
    simp [RecordShape.readEntries, RecordShape.fieldOfKey, RecordShape.field?, configShape,
      ConfigFields.set, field, Value.untagged, fill, version, list, bind, Except.bind, pure,
      Except.pure]
  have read : readConfig (asConfig values) = .ok entries := by
    rw [readConfig, fields]
    rfl
  have found : configOf (asConfig values) = .ok (asConfig values) := by
    simp [configOf, asConfig, Value.lookup?, configKey, field, Value.same]
  have supported : checkConfigVersion (asConfig values) = .ok () := by
    simp [checkConfigVersion, asConfig, Value.get?, Value.lookup?, field, Value.same,
      Value.untagged, Value.asNat?, supportedVersion]
  simp only [entriesOf, found, supported, read, bind, Except.bind]

/-- The entries of a state as a config are read back. -/
lemma entriesOf_toConfig (physical : ∀ interface ∈ state.interfaces, interface.kind = .physical)
    (untagged : state.AllParams fun value => hasTag value = false)
    (plain : state.AllParams IsPlain) : entriesOf state.toConfig = .ok state.entries := by
  refine entriesOf_asConfig (List.rel_append (List.rel_append ?_ ?_) ?_)
  · rw [List.forall₂_map_left_iff, List.forall₂_map_right_iff]
    exact List.forall₂_same.2 fun interface mem => ConfigEntry.read_interface
      (physical interface mem) (untagged interface mem) (plain interface mem)
  · exact .cons (ConfigEntry.read_dns state.dns) .nil
  · rw [List.forall₂_map_left_iff, List.forall₂_map_right_iff]
    exact List.forall₂_same.2 fun route _ => ConfigEntry.read_route route

/-- Physical devices are taken in as the interfaces that they come from. -/
lemma takeAll_physical (before : List Interface) {interfaces : List Interface}
    (physical : ∀ interface ∈ interfaces, interface.kind = .physical) :
    takeAll before (interfaces.map fun interface => .physical interface.device) =
      .ok (before ++ interfaces) := by
  induction interfaces generalizing before with
  | nil =>
    rw [List.append_nil]
    rfl
  | cons interface rest ih =>
    obtain ⟨first, others⟩ := List.forall_mem_cons.1 physical
    have same : interface.device.interface .physical = interface := by
      rw [← first]
      rfl
    have taken : (ConfigEntry.physical interface.device).takeInto before = before ++ [interface] := by
      change before ++ [interface.device.interface .physical] = _
      rw [same]
    change takeAll ((ConfigEntry.physical interface.device).takeInto before) _ = _
    rw [taken, ih _ others, List.append_assoc]
    rfl

/-- The entries of a valid state make that state again. -/
lemma ofEntries_entries (valid : state.validate = .ok ())
    (physical : ∀ interface ∈ state.interfaces, interface.kind = .physical) :
    ofEntries state.entries = .ok state := by
  refine ofEntries_eq_ok_iff.2 ⟨?_, ?_, validate_eq_ok_iff.1 valid⟩
  · have devices : state.entries.filter (·.isDevice) =
        state.interfaces.map fun interface => .physical interface.device := by
      rw [entries, List.filter_append, List.filter_append]
      simp [ConfigEntry.isDevice, ConfigEntry.device?, List.filter_map, Function.comp_def]
    rw [← takeAll_filter, devices]
    exact takeAll_physical [] physical
  · have silent {α β : Type} (items : List α) : items.flatMap (fun _ => ([] : List β)) = [] :=
      List.flatMap_eq_nil_iff.2 fun _ _ => rfl
    have supported : state.version = supportedVersion := (validate_eq_ok_iff.1 valid).version
    obtain ⟨version, interfaces, routes, nameservers, search⟩ := state
    obtain rfl : version = supportedVersion := supported
    simp [ofParts, entries, List.flatMap_map, silent, ConfigEntry.routes, ConfigEntry.nameservers,
      ConfigEntry.search]

/-- A valid state whose interfaces are all physical, and whose parameters have no tags and (as all
mappings) no key twice, is what its config describes, and what its own document describes. -/
theorem documents_agree (valid : state.validate = .ok ())
    (physical : ∀ interface ∈ state.interfaces, interface.kind = .physical)
    (untagged : state.AllParams fun value => hasTag value = false)
    (distinct : state.AllParams fun value => value.hasDistinctKeys) :
    ofConfigDocument state.toConfig = .ok state ∧ ofDocument state.toValue = .ok state := by
  have plain := plain_of_untagged untagged distinct
  constructor
  · rw [ofConfigDocument, entriesOf_toConfig physical untagged plain]
    exact ofEntries_entries valid physical
  · have readable : state.IsReadable := fun interface mem =>
      Params.isReadable_of_plain (plain interface mem)
    rw [ofDocument_of_unmark readable valid rfl, unmark_of_plain plain]

/-- A state with one interface and something in each of its parts. -/
def wiredHost : State where
  interfaces := [{
    name := "eth0", kind := .physical, mac := some "52:54:00:12:34:56", mtu := some 1400,
    params := .ofList [("up", .string "ip route flush cache"),
      ("link", .mapping [(.string "speeds", .sequence [.int 10, .int 100]), (.int 1, .null)])],
    subnets := [{ kind := .dhcp4 },
      { kind := .static, address := some "10.0.0.2/24", control := .manual, search := ["lan"] }] }]
  routes := [{ network := "10.1.0.0", gateway := "10.0.0.1", metric := some 5 }]
  dns := ⟨["10.0.0.1", "10.0.0.3"], ["lan"]⟩

/-- The state is physical in every part, and both its documents are read as this state. -/
theorem documents_agree_wiredHost :
    wiredHost.validate = .ok () ∧
      (∀ interface ∈ wiredHost.interfaces, interface.kind = .physical) ∧
      (wiredHost.AllParams fun value => hasTag value = false) ∧
      (wiredHost.AllParams fun value => value.hasDistinctKeys) ∧
      ofConfigDocument wiredHost.toConfig = .ok wiredHost ∧
      ofDocument wiredHost.toValue = .ok wiredHost := by
  have valid : wiredHost.validate = .ok () := by decide +kernel
  have physical : ∀ interface ∈ wiredHost.interfaces, interface.kind = .physical := by decide
  have untagged : wiredHost.AllParams fun value => hasTag value = false := by
    unfold AllParams Params.All
    decide
  have distinct : wiredHost.AllParams fun value => value.hasDistinctKeys := by
    refine List.forall_mem_singleton.2 (List.forall_mem_cons.2 ⟨?_, List.forall_mem_singleton.2 rfl⟩)
    simp [Value.hasDistinctKeys, Value.haveDistinctKeys, Value.entriesHaveDistinctKeys,
      Value.hasKey, Value.same]
  exact ⟨valid, physical, untagged, distinct, documents_agree valid physical untagged distinct⟩

end State

end TargetNet.Network
