import Mathlib.Data.List.Forall2
import Mathlib.Tactic.Common
import TargetNet.Network.StateDocument
import TargetNet.Proofs.Yaml.Reading

/-!
# Reading written states

What is written for each part of a state is read as that part (`State.reads_toValue`). What is left
out when it is empty is what a reader takes a missing field for. Parameters apart, nothing is lost;
of their tags, each loses a mark.
-/

namespace TargetNet.Network

open Yaml (Value Mode Reading Reads RecordShape Variants fill)

/-! ## Fields -/

section Fields

variable {δ : Type} (shape : RecordShape δ) (mode : Mode)

/-- A text that may be missing fills its field, or leaves it. -/
lemma fills_textField (put : Option (Option String) → δ) (name : String) (text : Option String)
    (known : shape.field? name = some name)
    (set : ∀ given, readText? given = .ok text →
      shape.set (put none) name given = .ok (put (some text))) :
    shape.Fills mode (put none) (textField name text) (put (text.map some)) := by
  cases text with
  | none => exact .nil
  | some text => exact .field name known ((Reads.string text).option (by simp [Value.unmark])) set

/-- A number that may be missing fills its field, or leaves it. -/
lemma fills_numberField (put : Option (Option UInt32) → δ) (name : String) (n : Option UInt32)
    (known : shape.field? name = some name)
    (set : ∀ given, readNumber? given = .ok n →
      shape.set (put none) name given = .ok (put (some n))) :
    shape.Fills mode (put none) (numberField name n) (put (n.map some)) := by
  cases n with
  | none => exact .nil
  | some n => exact .field name known ((Reads.uint32 n).option (by simp [Value.unmark])) set

/-- A list that is left out when it is empty. -/
def listed {α : Type} (items : List α) : Option (List α) :=
  if items.isEmpty then none else some items

@[simp] lemma getD_listed {α : Type} (items : List α) : (listed items).getD [] = items := by
  cases items <;> rfl

/-- A list fills its field, or leaves it when it is empty. -/
lemma fills_listed {α : Type} (put : Option (List α) → δ) (name : String) {items : List α}
    {value : Value} {read : Value → Reading (List α)} (known : shape.field? name = some name)
    (reads : Reads read value items)
    (set : ∀ given, read given = .ok items →
      shape.set (put none) name given = .ok (put (some items))) :
    shape.Fills mode (put none) (if items.isEmpty then [] else [field name value])
      (put (listed items)) := by
  rw [listed]
  split
  · exact .nil
  · exact .field name known reads set

@[simp] lemma join_map_some {α : Type} (a : Option α) : (a.map some).join = a := by
  cases a <;> rfl

end Fields

/-! ## Subnets and routes -/

lemma subnetKinds_ofName (kind : SubnetKind) : subnetKinds.ofName kind.name = .ok kind := by
  cases kind <;> rfl

lemma controls_ofName (control : Control) : controls.ofName control.name = .ok control := by
  cases control <;> rfl

/-- A subnet is read as it was written. -/
lemma Subnet.reads_toValue (mode : Mode) (subnet : Subnet) :
    Reads (Subnet.read mode) subnet.toValue subnet := by
  obtain ⟨kind, address, netmask, gateway, control, nameservers, search⟩ := subnet
  -- what is read so far, after each field that is written
  let shape := subnetShape mode
  let f₁ : SubnetFields := { kind := some kind }
  let f₂ := { f₁ with address := address.map some }
  let f₃ := { f₂ with netmask := netmask.map some }
  let f₄ := { f₃ with gateway := gateway.map some }
  let f₅ := { f₄ with control := some control }
  let f₆ := { f₅ with nameservers := listed nameservers }
  have h₁ : shape.Fills mode {} [field "type" (.string kind.name)] f₁ :=
    .field "type" rfl (.variant mode (subnetKinds_ofName kind)) fun given h => by
      simp [shape, subnetShape, SubnetFields.set, fill, h, f₁]
  have h₂ := fills_textField shape mode (fun x => { f₁ with address := x }) "address" address rfl
    fun given h => by simp [shape, subnetShape, SubnetFields.set, fill, h]
  have h₃ := fills_textField shape mode (fun x => { f₂ with netmask := x }) "netmask" netmask rfl
    fun given h => by simp [shape, subnetShape, SubnetFields.set, fill, h]
  have h₄ := fills_textField shape mode (fun x => { f₃ with gateway := x }) "gateway" gateway rfl
    fun given h => by simp [shape, subnetShape, SubnetFields.set, fill, h]
  have h₅ : shape.Fills mode f₄ [field "control" (.string control.name)] f₅ :=
    .field "control" rfl (.variant mode (controls_ofName control)) fun given h => by
      simp [shape, subnetShape, SubnetFields.set, fill, h, f₁, f₂, f₃, f₄, f₅]
  have h₆ := fills_listed shape mode (fun x => { f₅ with nameservers := x }) "dns_nameservers" rfl
    (Reads.each mode .string nameservers)
    fun given h => by simp [shape, subnetShape, SubnetFields.set, fill, readTexts, h]
  have h₇ := fills_listed shape mode (fun x => { f₆ with search := x }) "dns_search" rfl
    (Reads.each mode .string search)
    fun given h => by simp [shape, subnetShape, SubnetFields.set, fill, readTexts, h]
  intro given h
  have filled := h₁.cons (((h₂.append h₃).append h₄).append (h₅.cons (h₆.append h₇)))
  rw [Subnet.read, filled.reads given h]
  simp [bind, Except.bind, pure, Except.pure, SubnetFields.finish, Yaml.demand, f₁, f₂, f₃, f₄,
    f₅, f₆]

/-- A route is read as it was written. -/
lemma Route.reads_toValue (mode : Mode) (route : Route) :
    Reads (Route.read mode) route.toValue route := by
  obtain ⟨network, netmask, gateway, metric⟩ := route
  let f₁ : RouteFields := { network := some network }
  let f₂ := { f₁ with netmask := netmask.map some }
  let f₃ := { f₂ with gateway := some gateway }
  have h₁ : routeShape.Fills mode {} [field "network" (.string network)] f₁ :=
    .field "network" rfl (.string network) fun given h => by
      simp [routeShape, RouteFields.set, fill, h, f₁]
  have h₂ := fills_textField routeShape mode (fun x => { f₁ with netmask := x }) "netmask" netmask rfl
    fun given h => by simp [routeShape, RouteFields.set, fill, h]
  have h₃ : routeShape.Fills mode f₂ [field "gateway" (.string gateway)] f₃ :=
    .field "gateway" rfl (.string gateway) fun given h => by
      simp [routeShape, RouteFields.set, fill, h, f₁, f₂, f₃]
  have h₄ := fills_numberField routeShape mode (fun x => { f₃ with metric := x }) "metric" metric rfl
    fun given h => by simp [routeShape, RouteFields.set, fill, h]
  intro given h
  have filled := h₁.cons (h₂.append (h₃.cons h₄))
  rw [Route.read, filled.reads given h]
  simp [bind, Except.bind, pure, Except.pure, RouteFields.finish, Yaml.demand, f₁, f₂, f₃]

/-! ## Parameters -/

/-- A name after all others goes to the end. -/
lemma insertEntry_of_last {name : String} {value : Value} {entries : List (String × Value)}
    (last : ∀ e ∈ entries, e.1 < name) :
    insertEntry name value entries = entries ++ [(name, value)] := by
  induction entries with
  | nil => rfl
  | cons entry rest ih =>
    have before := last entry List.mem_cons_self
    have other : name ≠ entry.1 := fun e => String.lt_irrefl _ (e ▸ before)
    rw [insertEntry, if_neg (String.not_lt.2 (Std.le_of_lt before)), if_neg other,
      ih fun e mem => last e (List.mem_cons_of_mem _ mem)]
    rfl

/-- Parameters are made of their entries. -/
lemma Params.ofList_entries (params : Params) : Params.ofList params.entries = params := by
  obtain ⟨entries, sorted⟩ := params
  -- what is put in so far is a beginning of the sorted entries, so each next one goes to the end
  suffices ∀ params : Params, IsSorted (params.entries ++ entries) →
      (entries.foldl (fun params e => params.insert e.1 e.2) params).entries =
        params.entries ++ entries by
    have whole := this .empty sorted
    cases made : Params.ofList entries with
    | mk entries' sorted' =>
      obtain rfl : entries' = entries := (congrArg Params.entries made).symm.trans whole
      rfl
  clear sorted
  induction entries with
  | nil => simp
  | cons entry rest ih =>
    intro params sorted
    have last : ∀ e ∈ params.entries, e.1 < entry.1 := fun e mem =>
      (List.pairwise_append.1 sorted).2.2 e mem entry List.mem_cons_self
    have inserted : (params.insert entry.1 entry.2).entries = params.entries ++ [entry] :=
      insertEntry_of_last last
    rw [List.foldl_cons, ih, inserted, List.append_assoc]
    · rfl
    · rw [inserted, List.append_assoc]
      exact sorted

/-- The parameters with a mark less on every tag. -/
def Params.unmark (params : Params) : Params where
  entries := params.entries.map fun e => (e.1, e.2.unmark)
  sorted := by
    rw [IsSorted, List.pairwise_map]
    exact params.sorted

/-- Parameters whose values all satisfy a condition. -/
def Params.All (p : Value → Prop) (params : Params) : Prop :=
  ∀ e ∈ params.entries, p e.2

/-- Parameters that can be read: taking marks off their tags makes no two keys the same. -/
def Params.IsReadable (params : Params) : Prop :=
  params.All fun value => value.unmark.hasDistinctKeys

/-- An entry of parameters is read with a mark less on every tag. -/
lemma readEntry_eq {name : String} {value : Value} (distinct : value.unmark.hasDistinctKeys)
    {entry : Value × Value} (h : (entry.1.unmark, entry.2.unmark) = (.string name, value.unmark)) :
    (do return (← entry.1.readString, ← entry.2.readAny) : Reading (String × Value)) =
      .ok (name, value.unmark) := by
  obtain ⟨key, same⟩ := Prod.mk.inj h
  have key := Reads.string name entry.1 key
  rw [key, Value.readAny_eq, same, Value.readIf, if_pos distinct]
  rfl

/-- Parameters are read with a mark less on every tag. -/
lemma Params.reads_toValue (mode : Mode) {params : Params} (readable : params.IsReadable) :
    Reads (Params.read mode) params.toValue params.unmark := by
  intro given h
  obtain ⟨found, rfl, same⟩ := Value.eq_of_unmark_mapping h
  have entries : Value.readEntries mode (.mapping found) = .ok found := by
    rw [Value.readEntries]
    rfl
  refine Yaml.bind_eq_ok_iff.2 ⟨found, entries, Yaml.bind_eq_ok_iff.2
    ⟨params.unmark.entries, Yaml.mapM_eq_ok_iff.2 ?_, ?_⟩⟩
  · rw [Value.unmarkEntries_eq_map, Value.unmarkEntries_eq_map, List.map_map,
      ← List.forall₂_eq_eq_eq, List.forall₂_map_left_iff, List.forall₂_map_right_iff] at same
    rw [Params.unmark, List.forall₂_map_right_iff]
    have both := (List.forall₂_and_left _ _).2 ⟨readable, same.flip⟩
    exact both.flip.imp fun entry e h => readEntry_eq h.1 h.2
  · exact congrArg Except.ok params.unmark.ofList_entries

/-! ## Interfaces -/

/-- The interface with a mark less on every tag. -/
def Interface.unmark (interface : Interface) : Interface :=
  { interface with params := interface.params.unmark }

lemma interfaceKinds_ofName (kind : InterfaceKind) :
    interfaceKinds.ofName kind.name = .ok kind := by
  cases kind <;> rfl

/-- The fields of an interface that are written after its name and its kind. -/
def Interface.laterFields (interface : Interface) : List (Value × Value) :=
  textField "mac_address" interface.mac ++ numberField "mtu" interface.mtu ++
    (if interface.params.isEmpty then [] else [field "params" interface.params.toValue]) ++
    [field "subnets" (.sequence (interface.subnets.map Subnet.toValue))]

lemma Interface.toValue_eq (interface : Interface) :
    interface.toValue = .mapping (field "name" (.string interface.name) ::
      field "type" (.string interface.kind.name) :: interface.laterFields) := rfl

/-- Every field of a device is read by this shape as in all devices. -/
structure ReadsDevice (shape : RecordShape InterfaceFields) (mode : Mode) : Prop where
  known : ∀ name ∈ ["name", "mac_address", "mtu", "params", "subnets"],
    shape.field? name = some name
  set : ∀ fields name value, name ≠ "type" →
    shape.set fields name value = InterfaceFields.setDevice mode fields name value

/-- The shape of interfaces reads every field of a device. -/
lemma interfaceShape_readsDevice : ReadsDevice interfaceShape .document where
  known := by decide
  set fields name value other := by
    change InterfaceFields.set .document fields name value = _
    unfold InterfaceFields.set
    split
    · exact absurd rfl other
    · rfl

section Devices

variable {shape : RecordShape InterfaceFields} {mode : Mode}

/-- The name fills its field. -/
lemma fills_name (device : ReadsDevice shape mode) (name : String) :
    shape.Fills mode {} [field "name" (.string name)] { name := some name } :=
  .field "name" (device.known _ (by simp)) (.string name) fun given h => by
    simp [device.set, InterfaceFields.setDevice, fill, h]

/-- Parameters fill their field, or leave it when there are none. -/
lemma fills_params (device : ReadsDevice shape mode) (fields : InterfaceFields) {params : Params}
    (readable : params.IsReadable) (empty : fields.params = none) :
    ∃ filled : Option Params, filled.getD ∅ = params.unmark ∧
      shape.Fills mode fields (if params.isEmpty then [] else [field "params" params.toValue])
        { fields with params := filled } := by
  cases none : params.isEmpty with
  | true =>
    refine ⟨.none, ?_, ?_⟩
    · obtain ⟨entries, sorted⟩ := params
      obtain rfl : entries = [] := List.isEmpty_iff.1 none
      rfl
    · rw [← empty]
      exact .nil
  | false =>
    refine ⟨some params.unmark, rfl, ?_⟩
    exact .field "params" (device.known _ (by simp)) (Params.reads_toValue mode readable)
      fun given h => by simp [device.set, InterfaceFields.setDevice, fill, h, empty]

/-- The later fields of an interface are read in the same way wherever a device has them. -/
lemma fills_laterFields (device : ReadsDevice shape mode) {interface : Interface}
    (readable : interface.params.IsReadable) (name : Option String) (kind : Option InterfaceKind) :
    ∃ filled : Option Params, filled.getD ∅ = interface.params.unmark ∧
      shape.Fills mode { name, kind } interface.laterFields
        { name, kind, mac := interface.mac.map some, mtu := interface.mtu.map some,
          params := filled, subnets := some interface.subnets } := by
  -- what is read so far, after each field that is written
  let f₁ : InterfaceFields := { name, kind }
  let f₂ := { f₁ with mac := interface.mac.map some }
  let f₃ := { f₂ with mtu := interface.mtu.map some }
  have h₁ := fills_textField shape mode (fun x => { f₁ with mac := x }) "mac_address" interface.mac
    (device.known _ (by simp)) fun given h => by
      simp [device.set, InterfaceFields.setDevice, fill, h]
  have h₂ := fills_numberField shape mode (fun x => { f₂ with mtu := x }) "mtu" interface.mtu
    (device.known _ (by simp)) fun given h => by
      simp [device.set, InterfaceFields.setDevice, fill, h]
  obtain ⟨filled, same, h₃⟩ := fills_params device f₃ readable rfl
  have h₄ : shape.Fills mode { f₃ with params := filled }
      [field "subnets" (.sequence (interface.subnets.map Subnet.toValue))]
      { f₃ with params := filled, subnets := some interface.subnets } :=
    .field "subnets" (device.known _ (by simp))
      (.each mode (Subnet.reads_toValue mode) interface.subnets) fun given h => by
        simp [device.set, InterfaceFields.setDevice, fill, h, f₁, f₂, f₃]
  exact ⟨filled, same, ((h₁.append h₂).append h₃).append h₄⟩

end Devices

/-- An interface is read as it was written, with a mark less on every tag. -/
lemma Interface.reads_toValue {interface : Interface} (readable : interface.params.IsReadable) :
    Reads Interface.read interface.toValue interface.unmark := by
  have h₁ := fills_name interfaceShape_readsDevice interface.name
  have h₂ : interfaceShape.Fills .document { name := some interface.name }
      [field "type" (.string interface.kind.name)]
      { name := some interface.name, kind := some interface.kind } :=
    .field "type" rfl (.variant .document (interfaceKinds_ofName interface.kind)) fun given h => by
      simp [interfaceShape, InterfaceFields.set, fill, h]
  obtain ⟨filled, same, h₃⟩ := fills_laterFields interfaceShape_readsDevice readable
    (some interface.name) (some interface.kind)
  intro given h
  rw [Interface.toValue_eq] at h
  rw [Interface.read, (h₁.cons (h₂.cons h₃)).reads given h]
  simp [bind, Except.bind, pure, Except.pure, InterfaceFields.interface, Interface.unmark,
    Yaml.demand, same]

/-! ## States -/

/-- Resolver settings are read as they were written. -/
lemma Dns.reads_toValue (dns : Dns) : Reads Dns.read dns.toValue dns := by
  obtain ⟨nameservers, search⟩ := dns
  let f₁ : DnsFields := { nameservers := listed nameservers }
  have h₁ := fills_listed dnsShape .document (fun x => { nameservers := x }) "nameservers" rfl
    (Reads.each .document .string nameservers)
    fun given h => by simp [dnsShape, DnsFields.set, fill, readTexts, h]
  have h₂ := fills_listed dnsShape .document (fun x => { f₁ with search := x }) "search" rfl
    (Reads.each .document .string search)
    fun given h => by simp [dnsShape, DnsFields.set, fill, readTexts, h]
  intro given h
  rw [Dns.read, (h₁.append h₂).reads given h]
  simp [bind, Except.bind, pure, Except.pure, f₁]

namespace State

/-- The state with a mark less on every tag. -/
def unmark (state : State) : State :=
  { state with interfaces := state.interfaces.map Interface.unmark }

/-- A state in which the values of all parameters satisfy a condition. -/
def AllParams (p : Value → Prop) (state : State) : Prop :=
  ∀ interface ∈ state.interfaces, interface.params.All p

/-- A state whose parameters can all be read. -/
def IsReadable (state : State) : Prop :=
  state.AllParams fun value => value.unmark.hasDistinctKeys

/-- A state is read as it was written, with a mark less on every tag. -/
theorem reads_toValue {state : State} (readable : state.IsReadable) :
    Reads State.read state.toValue state.unmark := by
  obtain ⟨version, interfaces, routes, dns⟩ := state
  let f₁ : StateFields := { version := some version }
  let f₂ := { f₁ with interfaces := some (interfaces.map Interface.unmark) }
  let f₃ := { f₂ with routes := listed routes }
  let f₄ := { f₃ with dns := some dns }
  have h₁ : stateShape.Fills .document {} [field "version" (.int version.toNat)] f₁ :=
    .field "version" rfl (.uint32 version) fun given h => by
      simp [stateShape, StateFields.set, fill, h, f₁]
  have h₂ : stateShape.Fills .document f₁
      [field "interfaces" (.sequence (interfaces.map Interface.toValue))] f₂ :=
    .field "interfaces" rfl
      (.map .document fun interface mem => Interface.reads_toValue (readable interface mem))
      fun given h => by simp [stateShape, StateFields.set, fill, h, f₁, f₂]
  have h₃ := fills_listed stateShape .document (fun x => { f₂ with routes := x }) "routes" rfl
    (Reads.each .document (Route.reads_toValue .document) routes)
    fun given h => by simp [stateShape, StateFields.set, fill, h]
  have h₄ : stateShape.Fills .document f₃ [field "dns" dns.toValue] f₄ :=
    .field "dns" rfl dns.reads_toValue fun given h => by
      simp [stateShape, StateFields.set, fill, h, f₁, f₂, f₃, f₄]
  intro given h
  rw [State.read, (h₁.cons (h₂.cons (h₃.append h₄))).reads given h]
  simp [bind, Except.bind, pure, Except.pure, unmark, f₁, f₂, f₃, f₄]

/-- Marks of tags do not matter to what every state must satisfy. -/
lemma validate_unmark (state : State) : state.unmark.validate = state.validate := by
  have interfaces (seen : List String) (interfaces : List Interface) :
      validateInterfaces seen (interfaces.map Interface.unmark) =
        validateInterfaces seen interfaces := by
    induction interfaces generalizing seen with
    | nil => rfl
    | cons interface rest ih =>
      rw [List.map_cons, validateInterfaces, validateInterfaces]
      change (interface.validate seen >>= fun _ =>
        validateInterfaces (interface.name :: seen) (rest.map Interface.unmark)) = _
      rw [ih]
  rw [State.validate, State.validate, unmark, interfaces]

/-- A document without the key of the state is the state itself. -/
lemma stateOf_mapping {entries : List (Value × Value)}
    (bare : Value.lookup? stateKey entries = none) :
    stateOf (.mapping entries) = .ok (.mapping entries) := by
  rw [stateOf, bare]
  rfl

/-- A valid state is what its document describes, with a mark less on every tag. -/
theorem ofDocument_of_unmark {state : State} {document : Value} (readable : state.IsReadable)
    (valid : state.validate = .ok ()) (same : document.unmark = state.toValue.unmark) :
    State.ofDocument document = .ok state.unmark := by
  have read := reads_toValue readable document same
  obtain ⟨entries, rfl, written⟩ := Value.eq_of_unmark_mapping same
  have absent : Value.lookup? stateKey entries = none := by
    rw [← Option.map_eq_none_iff, ← Value.lookup?_unmark, written, Value.lookup?_unmark,
      Option.map_eq_none_iff]
    cases state.routes.isEmpty <;> simp [Value.lookup?, field, Value.same, stateKey]
  rw [ofDocument, stateOf_mapping absent]
  simp [bind, Except.bind, read, checked, validate_unmark, valid]

end State

end TargetNet.Network
