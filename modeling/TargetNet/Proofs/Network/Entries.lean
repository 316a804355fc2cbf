import Mathlib.Data.List.Nodup
import Mathlib.Tactic.Common
import TargetNet.Proofs.Network.Params
import TargetNet.Proofs.Network.Valid

/-!
# What an entry does

The entries of a config are of six kinds, but each does the same few things to a state: it refers to
names that must be there, it may add an interface, it may write its name into the members of its
bond, and it may add routes and resolver settings. `State.add_eq` says so once for all kinds.

Interfaces, routes and resolver settings do not touch each other, so a config can be taken in part
by part (`State.ofEntries_eq`): `takeAll` is the run on the interfaces alone, which is all that can
fail before the check of the whole state.
-/

namespace TargetNet.Network

open Yaml (Value bind_eq_ok_iff)

/-! ## The parts of an entry -/

/-- An interface with parameters set one after another. -/
def Interface.withParams (interface : Interface) (params : List (String × Value)) : Interface :=
  params.foldl (fun interface param => interface.withParam param.1 param.2) interface

namespace ConfigEntry

/-- The device that an entry describes, with its kind. -/
def device? : ConfigEntry → Option (InterfaceKind × Device)
  | .physical device => some (.physical, device)
  | .bond device _ => some (.bond, device)
  | .bridge device _ => some (.bridge, device)
  | .vlan device _ _ => some (.vlan, device)
  | .nameserver _ _ | .route _ => none

/-- The name of the device that an entry describes. -/
def name? (entry : ConfigEntry) : Option String :=
  entry.device?.map (·.2.name)

/-- Whether an entry describes a device. -/
def isDevice (entry : ConfigEntry) : Bool :=
  entry.device?.isSome

/-- Who refers to the names in an entry. -/
def owner (entry : ConfigEntry) : String :=
  entry.name?.getD ""

/-- The names of other devices in an entry. -/
def uses : ConfigEntry → List String
  | .bond _ members => members
  | .bridge _ ports => ports
  | .vlan _ link _ => [link]
  | .physical _ | .nameserver _ _ | .route _ => []

/-- The interfaces that an entry makes members of its bond. -/
def members : ConfigEntry → List String
  | .bond _ members => members
  | _ => []

/-- The parameters that an entry sets for its device, whatever the device has under their names. -/
def ownParams : ConfigEntry → List (String × Value)
  | .bond _ members => [("bond-slaves", .string (Text.spaced members))]
  | .bridge _ ports => [("bridge_ports", .string (Text.spaced ports))]
  | .vlan _ link id => [("vlan-raw-device", .string link), ("vlan_id", .int id.toNat)]
  | .physical _ | .nameserver _ _ | .route _ => []

/-- The interface that an entry adds. -/
def interface? (entry : ConfigEntry) : Option Interface :=
  entry.device?.map fun (kind, device) => (device.interface kind).withParams entry.ownParams

/-- The routes that an entry adds. -/
def routes : ConfigEntry → List Route
  | .route added => [added]
  | _ => []

/-- The name servers that an entry adds. -/
def nameservers : ConfigEntry → List String
  | .nameserver addresses _ => addresses
  | _ => []

/-- The search domains that an entry adds. -/
def search : ConfigEntry → List String
  | .nameserver _ search => search
  | _ => []

/-- The interfaces after an entry. -/
def takeInto (entry : ConfigEntry) (interfaces : List Interface) : List Interface :=
  enslave interfaces entry.owner entry.members ++ entry.interface?.toList

end ConfigEntry

/-- An entry that is no device leaves the interfaces as they are. -/
lemma ConfigEntry.takeInto_of_not_device {entry : ConfigEntry} (other : entry.isDevice = false)
    (interfaces : List Interface) : entry.takeInto interfaces = interfaces := by
  cases entry with
  | nameserver addresses search => exact List.append_nil interfaces
  | route added => exact List.append_nil interfaces
  | _ => cases other

/-! ## One entry -/

/-- An entry changes a state part by part, if the names that it refers to are there. -/
lemma State.add_eq (state : State) (entry : ConfigEntry) :
    state.add entry = do
      checkAllDefined state.interfaces entry.owner entry.uses
      return {
        version := state.version
        interfaces := entry.takeInto state.interfaces
        routes := state.routes ++ entry.routes
        dns := ⟨state.dns.nameservers ++ entry.nameservers, state.dns.search ++ entry.search⟩ } := by
  cases entry with
  | physical device =>
    simp only [ConfigEntry.routes, ConfigEntry.nameservers, ConfigEntry.search, List.append_nil]
    rfl
  | bond device members =>
    simp only [ConfigEntry.routes, ConfigEntry.nameservers, ConfigEntry.search, List.append_nil]
    rfl
  | bridge device ports =>
    simp only [ConfigEntry.routes, ConfigEntry.nameservers, ConfigEntry.search, List.append_nil]
    rfl
  | vlan device link id =>
    simp only [ConfigEntry.routes, ConfigEntry.nameservers, ConfigEntry.search, List.append_nil]
    -- one name is checked as a list of one name
    change (checkDefined state.interfaces device.name link >>= _) =
      ((checkDefined state.interfaces device.name link >>= _) >>= _)
    cases checkDefined state.interfaces device.name link with
    | error fault => rfl
    | ok done => rfl
  | nameserver addresses search =>
    rw [ConfigEntry.takeInto_of_not_device rfl]
    simp only [ConfigEntry.routes, List.append_nil]
    rfl
  | route added =>
    rw [ConfigEntry.takeInto_of_not_device rfl]
    simp only [ConfigEntry.nameservers, ConfigEntry.search, List.append_nil]
    rfl

/-- Setting a parameter keeps the names of interfaces. -/
lemma names_setParam (interfaces : List Interface) (owner name : String) (value : Value) :
    (setParam interfaces owner name value).map (·.name) = interfaces.map (·.name) := by
  induction interfaces with
  | nil => rfl
  | cons interface rest ih =>
    rw [setParam]
    split
    · rfl
    · rw [List.map_cons, ih, List.map_cons]

/-- Putting members under their bond keeps the names of interfaces. -/
lemma names_enslave (interfaces : List Interface) (bond : String) (members : List String) :
    (enslave interfaces bond members).map (·.name) = interfaces.map (·.name) := by
  rw [enslave]
  induction members generalizing interfaces with
  | nil => rfl
  | cons name rest ih => rw [List.foldl_cons, ih, names_setParam]

lemma ConfigEntry.name_interface? (entry : ConfigEntry) :
    entry.interface?.map (·.name) = entry.name? := by
  cases entry <;> rfl

/-- An entry adds its name, if it has one. -/
lemma ConfigEntry.names_takeInto (entry : ConfigEntry) (interfaces : List Interface) :
    (entry.takeInto interfaces).map (·.name) = interfaces.map (·.name) ++ entry.name?.toList := by
  rw [takeInto, List.map_append, names_enslave, ← name_interface?, Option.toList_map]

/-- A name is defined if an interface has it. -/
lemma checkDefined_eq (interfaces : List Interface) (owner name : String) :
    checkDefined interfaces owner name =
      if name ∈ interfaces.map (·.name) then .ok () else .error (.undefined owner name) := by
  have there : (interfaces.any (·.name = name)) = true ↔ name ∈ interfaces.map (·.name) := by simp
  rw [checkDefined]
  simp only [there]

/-- Names are defined if each is that of an interface. -/
lemma checkAllDefined_eq_ok_iff {interfaces : List Interface} {owner : String}
    {names : List String} :
    checkAllDefined interfaces owner names = .ok () ↔
      ∀ name ∈ names, name ∈ interfaces.map (·.name) := by
  induction names with
  | nil => simp [checkAllDefined]
  | cons name rest ih =>
    rw [checkAllDefined, checkDefined_eq, List.forall_mem_cons, ← ih]
    split
    · rename_i there
      exact ⟨fun h => ⟨there, h⟩, fun h => h.2⟩
    · rename_i missing
      exact ⟨by rintro ⟨⟩, fun h => absurd h.1 missing⟩

/-- If they are not, the error is about one that no interface has. -/
lemma missing_of_checkAllDefined {interfaces : List Interface} {owner : String}
    {names : List String} {fault : DocumentError}
    (h : checkAllDefined interfaces owner names = .error fault) :
    ∃ name ∈ names, name ∉ interfaces.map (·.name) ∧ fault = .undefined owner name := by
  induction names with
  | nil => cases h
  | cons name rest ih =>
    rw [checkAllDefined, checkDefined_eq] at h
    split at h
    · obtain ⟨missing, mem, absent, same⟩ := ih h
      exact ⟨missing, List.mem_cons_of_mem _ mem, absent, same⟩
    · rename_i absent
      cases h
      exact ⟨name, List.mem_cons_self, absent, rfl⟩

/-! ## All entries -/

/-- The interfaces after entries, if each finds the names that it refers to. -/
def takeAll (interfaces : List Interface) :
    List ConfigEntry → Except DocumentError (List Interface)
  | [] => .ok interfaces
  | entry :: rest => do
    checkAllDefined interfaces entry.owner entry.uses
    takeAll (entry.takeInto interfaces) rest

/-- The state with these interfaces, and with the routes and resolver settings of entries. -/
def State.ofParts (interfaces : List Interface) (entries : List ConfigEntry) : State where
  interfaces
  routes := entries.flatMap (·.routes)
  dns := ⟨entries.flatMap (·.nameservers), entries.flatMap (·.search)⟩

/-- Entries change a state part by part. -/
lemma State.addAll_eq (state : State) (entries : List ConfigEntry) :
    state.addAll entries = do
      let interfaces ← takeAll state.interfaces entries
      return {
        version := state.version
        interfaces
        routes := state.routes ++ entries.flatMap (·.routes)
        dns := ⟨state.dns.nameservers ++ entries.flatMap (·.nameservers),
          state.dns.search ++ entries.flatMap (·.search)⟩ } := by
  induction entries generalizing state with
  | nil =>
    simp only [List.flatMap_nil, List.append_nil]
    rfl
  | cons entry rest ih =>
    rw [addAll, add_eq, takeAll]
    cases checkAllDefined state.interfaces entry.owner entry.uses with
    | error fault => rfl
    | ok done =>
      simp only [List.flatMap_cons, ← List.append_assoc]
      exact ih _

/-- The state of a config is made of the parts of its entries, and checked. -/
lemma State.ofEntries_eq (entries : List ConfigEntry) :
    ofEntries entries =
      takeAll [] entries >>= fun interfaces => (ofParts interfaces entries).checked := by
  rw [ofEntries, addAll_eq]
  cases takeAll [] entries with
  | error fault => rfl
  | ok interfaces => rfl

/-- A config is accepted if its references are good and its parts make a valid state. -/
lemma State.ofEntries_eq_ok_iff {entries : List ConfigEntry} {state : State} :
    ofEntries entries = .ok state ↔
      takeAll [] entries = .ok state.interfaces ∧ state = ofParts state.interfaces entries ∧
        state.IsValid := by
  rw [ofEntries_eq, bind_eq_ok_iff]
  constructor
  · rintro ⟨interfaces, taken, passed⟩
    obtain ⟨rfl, valid⟩ := eq_of_checked passed
    exact ⟨taken, rfl, validate_eq_ok_iff.1 valid⟩
  · rintro ⟨taken, parts, valid⟩
    refine ⟨state.interfaces, taken, ?_⟩
    rw [← parts, checked, validate_eq_ok_iff.2 valid]

/-- Only devices matter for the interfaces. -/
lemma takeAll_filter (interfaces : List Interface) (entries : List ConfigEntry) :
    takeAll interfaces (entries.filter (·.isDevice)) = takeAll interfaces entries := by
  induction entries generalizing interfaces with
  | nil => rfl
  | cons entry rest ih =>
    cases device : entry.isDevice with
    | true =>
      rw [List.filter_cons_of_pos device, takeAll, takeAll]
      simp only [ih]
    | false =>
      have uses : entry.uses = [] := by
        cases entry with
        | nameserver addresses search => rfl
        | route added => rfl
        | _ => cases device
      rw [List.filter_cons_of_neg (Bool.not_eq_true _ ▸ device), ih, takeAll, uses,
        ConfigEntry.takeInto_of_not_device device]
      rfl

/-- Taking in an entry moves its name from what is to come to what is there. -/
lemma ConfigEntry.names_takeInto_append (entry : ConfigEntry) (interfaces : List Interface)
    (rest : List ConfigEntry) :
    (entry.takeInto interfaces).map (·.name) ++ rest.filterMap (·.name?) =
      interfaces.map (·.name) ++ (entry :: rest).filterMap (·.name?) := by
  rw [names_takeInto, List.append_assoc, List.filterMap_cons]
  cases entry.name? <;> rfl

/-- Entries add their names, in order, to those of the interfaces. -/
lemma names_of_takeAll {interfaces interfaces' : List Interface} {entries : List ConfigEntry}
    (h : takeAll interfaces entries = .ok interfaces') :
    interfaces'.map (·.name) = interfaces.map (·.name) ++ entries.filterMap (·.name?) := by
  induction entries generalizing interfaces with
  | nil =>
    cases h
    exact (List.append_nil _).symm
  | cons entry rest ih =>
    obtain ⟨_, -, h⟩ := bind_eq_ok_iff.1 h
    rw [ih h, ConfigEntry.names_takeInto_append]

/-- The state of a config text is that of its entries. -/
lemma State.parseConfig_of_parseEntries {text : String} {entries : List ConfigEntry}
    (parsed : parseEntries text = .ok entries) : parseConfig text = ofEntries entries := by
  rw [parseConfig, parsed]
  rfl

end TargetNet.Network
