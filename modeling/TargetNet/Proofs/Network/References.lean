import Mathlib.Data.List.Nodup
import Mathlib.Logic.Relation
import Mathlib.Order.WellFounded
import TargetNet.Error
import TargetNet.Proofs.Network.Entries

/-!
# References between devices

A bond lists its members, a bridge its ports, and a vlan stands on one device. In a config that is
accepted, each such name is that of exactly one interface, which comes before the one that uses it, so
no device uses itself, directly or through others. A name that no device before has is an error.
-/

namespace TargetNet.Network

open Yaml (bind_eq_ok_iff)

/-- A device of a config names another one: the owner of an entry uses the name. -/
def Uses (entries : List ConfigEntry) (owner name : String) : Prop :=
  ∃ entry ∈ entries, entry.owner = owner ∧ name ∈ entry.uses

/-- The name of the interface at a place of a state. -/
def State.nameAt? (state : State) (place : Nat) : Option String :=
  state.interfaces[place]?.map (·.name)

/-- The name at a place is that of an interface. -/
lemma State.exists_of_nameAt? {state : State} {place : Nat} {name : String}
    (there : state.nameAt? place = some name) :
    ∃ interface ∈ state.interfaces, interface.name = name := by
  obtain ⟨interface, found, named⟩ := Option.map_eq_some_iff.1 there
  exact ⟨interface, List.mem_of_getElem? found, named⟩

/-- An entry that uses a name has an owner. -/
lemma ConfigEntry.name?_of_uses {entry : ConfigEntry} {name : String} (mem : name ∈ entry.uses) :
    entry.name? = some entry.owner := by
  cases entry with
  | physical device => cases mem
  | nameserver addresses search => cases mem
  | route added => cases mem
  | _ => rfl

/-- In entries that are taken in, every use is of a name before it. -/
lemma defined_of_takeAll {interfaces interfaces' : List Interface} {before after : List ConfigEntry}
    {entry : ConfigEntry} {name : String} (mem : name ∈ entry.uses)
    (h : takeAll interfaces (before ++ entry :: after) = .ok interfaces') :
    name ∈ interfaces.map (·.name) ++ before.filterMap (·.name?) := by
  induction before generalizing interfaces with
  | nil =>
    obtain ⟨_, checked, -⟩ := bind_eq_ok_iff.1 h
    exact List.mem_append_left _ (checkAllDefined_eq_ok_iff.1 checked name mem)
  | cons first rest ih =>
    obtain ⟨_, -, h⟩ := bind_eq_ok_iff.1 h
    rw [← ConfigEntry.names_takeInto_append]
    exact ih h

/-- Entries fail to be taken in only at a name that is used and not before its use. -/
lemma undefined_of_takeAll {interfaces : List Interface} {entries : List ConfigEntry}
    {fault : DocumentError} (h : takeAll interfaces entries = .error fault) :
    ∃ before entry after name, entries = before ++ entry :: after ∧ name ∈ entry.uses ∧
      name ∉ interfaces.map (·.name) ++ before.filterMap (·.name?) ∧
      fault = .undefined entry.owner name := by
  induction entries generalizing interfaces with
  | nil => cases h
  | cons first rest ih =>
    rw [takeAll] at h
    cases checked : checkAllDefined interfaces first.owner first.uses with
    | error _ =>
      rw [checked] at h
      cases h
      obtain ⟨name, mem, missing, same⟩ := missing_of_checkAllDefined checked
      exact ⟨[], first, rest, name, rfl, mem, by simpa using missing, same⟩
    | ok done =>
      rw [checked] at h
      obtain ⟨before, entry, after, name, rfl, mem, missing, same⟩ := ih h
      rw [ConfigEntry.names_takeInto_append] at missing
      exact ⟨first :: before, entry, after, name, rfl, mem, missing, same⟩

/-- A device of a config names another one that no entry before it describes. -/
def UsesUndefined (entries : List ConfigEntry) (owner name : String) : Prop :=
  ∃ before entry after, entries = before ++ entry :: after ∧ entry.owner = owner ∧
    name ∈ entry.uses ∧ name ∉ before.filterMap (·.name?)

/-- A use of what is not there makes the entries fail at such a use. -/
lemma State.ofEntries_of_undefined {entries : List ConfigEntry} {owner name : String}
    (undefined : UsesUndefined entries owner name) :
    ∃ owner name, UsesUndefined entries owner name ∧
      ofEntries entries = .error (.undefined owner name) := by
  obtain ⟨before, entry, after, rfl, -, mem, missing⟩ := undefined
  rw [ofEntries_eq]
  cases taken : takeAll [] (before ++ entry :: after) with
  | error fault =>
    obtain ⟨before', entry', after', name', split, mem', missing', rfl⟩ := undefined_of_takeAll taken
    exact ⟨_, name', ⟨before', entry', after', split, rfl, mem', missing'⟩, rfl⟩
  | ok interfaces => exact absurd (defined_of_takeAll mem taken) missing

/-- The names of a state are those of the devices of its config, in order. -/
lemma State.names_of_ofEntries {entries : List ConfigEntry} {state : State}
    (accepted : ofEntries entries = .ok state) :
    state.interfaces.map (·.name) = entries.filterMap (·.name?) := by
  obtain ⟨taken, -, -⟩ := ofEntries_eq_ok_iff.1 accepted
  simpa using names_of_takeAll taken

/-- In a list without duplicates, an item has one place. -/
lemma getElem?_eq_some_iff_of_nodup {α : Type} {items : List α} (distinct : items.Nodup)
    {place : Nat} {item : α} (there : items[place]? = some item) (other : Nat) :
    items[other]? = some item ↔ other = place := by
  constructor
  · intro also
    obtain ⟨bound, -⟩ := List.getElem?_eq_some_iff.1 also
    exact (List.getElem?_inj bound distinct).1 (also.trans there.symm)
  · rintro rfl
    exact there

/-- A use leads from one place of the state to one before it. -/
lemma State.places_of_uses {entries : List ConfigEntry} {state : State}
    (accepted : ofEntries entries = .ok state) {owner name : String}
    (uses : Uses entries owner name) :
    ∃ used user, used < user ∧ (∀ place, state.nameAt? place = some name ↔ place = used) ∧
      ∀ place, state.nameAt? place = some owner ↔ place = user := by
  obtain ⟨taken, -, valid⟩ := ofEntries_eq_ok_iff.1 accepted
  have names := names_of_ofEntries accepted
  have distinct := valid.distinct
  obtain ⟨entry, mem, rfl, mentioned⟩ := uses
  obtain ⟨before, after, rfl⟩ := List.append_of_mem mem
  have found : name ∈ before.filterMap (·.name?) := by simpa using defined_of_takeAll mentioned taken
  have split : (before ++ entry :: after).filterMap (·.name?) =
      before.filterMap (·.name?) ++ entry.owner :: after.filterMap (·.name?) := by
    rw [List.filterMap_append, List.filterMap_cons_some (ConfigEntry.name?_of_uses mentioned)]
  rw [names, split] at distinct
  have atPlace (place : Nat) : state.nameAt? place =
      (before.filterMap (·.name?) ++ entry.owner :: after.filterMap (·.name?))[place]? := by
    rw [nameAt?, ← List.getElem?_map, names, split]
  obtain ⟨used, bound, there⟩ := List.mem_iff_getElem.1 found
  refine ⟨used, (before.filterMap (·.name?)).length, bound, ?_, ?_⟩
  · intro place
    rw [atPlace]
    apply getElem?_eq_some_iff_of_nodup distinct
    rw [List.getElem?_append_left bound, List.getElem?_eq_getElem bound, there]
  · intro place
    rw [atPlace]
    apply getElem?_eq_some_iff_of_nodup distinct
    rw [List.getElem?_append_right (Nat.le_refl _), Nat.sub_self]
    rfl

/-- A name with one place has its index there. -/
lemma State.idxOf_of_nameAt? {state : State} {name : String} {place : Nat}
    (only : ∀ other, state.nameAt? other = some name ↔ other = place) :
    (state.interfaces.map (·.name)).idxOf name = place := by
  have there : (state.interfaces.map (·.name))[place]? = some name := by
    rw [List.getElem?_map]
    exact (only place).2 rfl
  apply (only _).1
  rw [nameAt?, ← List.getElem?_map]
  exact List.getElem?_idxOf (List.mem_of_getElem? there)

/-- What is used has an earlier place than what uses it, so uses go down. -/
lemma State.uses_wellFounded {entries : List ConfigEntry} {state : State}
    (accepted : ofEntries entries = .ok state) :
    WellFounded fun name owner => Uses entries owner name := by
  have earlier {name owner : String} (uses : Uses entries owner name) :
      (state.interfaces.map (·.name)).idxOf name < (state.interfaces.map (·.name)).idxOf owner := by
    obtain ⟨used, user, before, isUsed, isUser⟩ := places_of_uses accepted uses
    rw [idxOf_of_nameAt? isUsed, idxOf_of_nameAt? isUser]
    exact before
  exact Subrelation.wf earlier (measure (state.interfaces.map (·.name)).idxOf).wf

/-- In a config that is accepted, every name that is used is that of exactly one interface, which comes
before the one that uses it, and no chain of uses leads back. A use of a name that no entry before it
describes is an error of the document, and there is no state. The entries of a text are all that
counts for its state. -/
theorem State.references_are_well_founded :
    (∀ entries state, ofEntries entries = .ok state →
      (∀ owner name, Uses entries owner name →
        ∃ used user, used < user ∧ (∀ place, state.nameAt? place = some name ↔ place = used) ∧
          ∀ place, state.nameAt? place = some owner ↔ place = user) ∧
      (WellFounded fun name owner => Uses entries owner name) ∧
      ∀ name, ¬ Relation.TransGen (Uses entries) name name) ∧
    (∀ entries owner name, UsesUndefined entries owner name →
      ∃ owner name, UsesUndefined entries owner name ∧
        ofEntries entries = .error (.undefined owner name) ∧
        (Error.document (.undefined owner name)).kind = .parseError) ∧
    ∀ text entries, parseEntries text = .ok entries → parseConfig text = ofEntries entries := by
  refine ⟨?_, ?_, fun _ _ => parseConfig_of_parseEntries⟩
  · intro entries state accepted
    have wellFounded := uses_wellFounded accepted
    refine ⟨fun owner name => places_of_uses accepted, wellFounded, ?_⟩
    intro name chain
    exact wellFounded.transGen.irrefl.irrefl name chain.swap
  · intro entries owner name undefined
    obtain ⟨owner, name, undefined, failed⟩ := ofEntries_of_undefined undefined
    exact ⟨owner, name, undefined, failed, rfl⟩

/-- A vlan on a physical interface, and a bridge over the vlan. -/
def bridgedVlan : List ConfigEntry :=
  [.physical { name := "eth0" }, .vlan { name := "eth0.5" } "eth0" 5,
    .bridge { name := "br0" } ["eth0.5"]]

/-- The state of `bridgedVlan`. -/
def bridgedVlanState : State where
  interfaces := [
    { name := "eth0", kind := .physical },
    { name := "eth0.5", kind := .vlan,
      params := .ofList [("vlan-raw-device", .string "eth0"), ("vlan_id", .int 5)] },
    { name := "br0", kind := .bridge, params := .ofList [("bridge_ports", .string "eth0.5")] }]

lemma ofEntries_bridgedVlan : State.ofEntries bridgedVlan = .ok bridgedVlanState := by
  rfl

lemma uses_bridgedVlan : Uses bridgedVlan "br0" "eth0.5" :=
  ⟨.bridge { name := "br0" } ["eth0.5"], by simp [bridgedVlan], rfl, List.mem_singleton_self _⟩

/-- The bridge comes after its port in the state, and the other way round there is no state. -/
theorem State.references_are_well_founded_bridgedVlan :
    ofEntries bridgedVlan = .ok bridgedVlanState ∧ Uses bridgedVlan "br0" "eth0.5" ∧
    (∃ used user, used < user ∧
      (∀ place, bridgedVlanState.nameAt? place = some "eth0.5" ↔ place = used) ∧
      ∀ place, bridgedVlanState.nameAt? place = some "br0" ↔ place = user) ∧
    UsesUndefined bridgedVlan.reverse "br0" "eth0.5" ∧
    ∃ owner name, ofEntries bridgedVlan.reverse = .error (.undefined owner name) := by
  have undefined : UsesUndefined bridgedVlan.reverse "br0" "eth0.5" :=
    ⟨[], .bridge { name := "br0" } ["eth0.5"], _, rfl, rfl, List.mem_singleton_self _,
      List.not_mem_nil⟩
  obtain ⟨accepted, refused, -⟩ := references_are_well_founded
  obtain ⟨owner, name, -, failed, -⟩ := refused _ _ _ undefined
  exact ⟨ofEntries_bridgedVlan, uses_bridgedVlan,
    (accepted _ _ ofEntries_bridgedVlan).1 _ _ uses_bridgedVlan, undefined, owner, name, failed⟩

end TargetNet.Network
