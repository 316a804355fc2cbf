import Mathlib.Data.List.Forall2
import TargetNet.Proofs.Network.References

/-!
# From a config to a state

Nothing of a config is lost, repeated or put in another order: `State.Translates` says what each part
of the state is, entry by entry. The interfaces are known in closed form (`described`): every device
in order, under the last bond that lists it. One entry more leads from the form for the entries before
it to the form with it (`takeInto_described`), so a whole config leads to the form for all entries.
-/

namespace TargetNet.Network

open Yaml (Value bind_eq_ok_iff)

/-! ## The last bond -/

/-- The bond that an entry describes, if it lists this name. -/
def ConfigEntry.bondOver? (entry : ConfigEntry) (name : String) : Option String :=
  if name ∈ entry.members then some entry.owner else none

/-- The last bond among entries that lists this name. -/
def lastBond? (entries : List ConfigEntry) (name : String) : Option String :=
  (entries.filterMap (·.bondOver? name)).getLast?

/-- Of all bonds over a name the later ones count. -/
lemma lastBond?_append (before after : List ConfigEntry) (name : String) :
    lastBond? (before ++ after) name = (lastBond? after name).or (lastBond? before name) := by
  rw [lastBond?, List.filterMap_append, List.getLast?_append, lastBond?, lastBond?]

/-- Of one entry, the last bond is its own. -/
lemma lastBond?_singleton (entry : ConfigEntry) (name : String) :
    lastBond? [entry] name = entry.bondOver? name := by
  rw [lastBond?]
  cases h : entry.bondOver? name <;> simp [h]

/-- There is no bond over a name that no entry lists. -/
lemma lastBond?_eq_none {entries : List ConfigEntry} {name : String}
    (free : ∀ entry ∈ entries, name ∉ entry.members) : lastBond? entries name = none := by
  rw [lastBond?, List.getLast?_eq_none_iff, List.filterMap_eq_nil_iff]
  intro entry mem
  rw [ConfigEntry.bondOver?, if_neg (free entry mem)]

/-- An interface with the bond that it is a member of among its parameters. -/
def Interface.under (interface : Interface) : Option String → Interface
  | none => interface
  | some bond => interface.withParam "bond-master" (.string bond)

lemma Interface.name_under (interface : Interface) (bond? : Option String) :
    (interface.under bond?).name = interface.name := by
  cases bond? <;> rfl

/-- Of two bonds the later one counts. -/
lemma Interface.under_under (interface : Interface) (first last : Option String) :
    (interface.under first).under last = interface.under (last.or first) := by
  cases last with
  | none => rfl
  | some last =>
    cases first with
    | none => rfl
    | some first =>
      change { interface with params := (interface.params.insert _ _).insert _ _ } = _
      rw [Params.insert_insert]
      rfl

/-! ## Closed form -/

/-- With distinct names, a parameter is set in the interface of its owner and in no other. -/
lemma setParam_eq {interfaces : List Interface} (distinct : (interfaces.map (·.name)).Nodup)
    (owner name : String) (value : Value) :
    setParam interfaces owner name value =
      interfaces.map fun i => if i.name = owner then i.withParam name value else i := by
  induction interfaces with
  | nil => rfl
  | cons interface rest ih =>
    obtain ⟨first, distinct⟩ := List.nodup_cons.1 distinct
    rw [setParam, List.map_cons]
    split
    · rename_i same
      -- the name stands here, so nowhere behind
      have others (i : Interface) (mem : i ∈ rest) :
          (if i.name = owner then i.withParam name value else i) = i := by
        apply if_neg
        intro again
        exact first (List.mem_map.2 ⟨i, mem, again.trans same.symm⟩)
      rw [List.map_congr_left others, List.map_id']
    · rw [ih distinct]

/-- Members are put under their bond, and nothing else changes. -/
lemma enslave_eq {interfaces : List Interface} (distinct : (interfaces.map (·.name)).Nodup)
    (bond : String) (members : List String) :
    enslave interfaces bond members =
      interfaces.map fun i => i.under (if i.name ∈ members then some bond else none) := by
  rw [enslave]
  induction members generalizing interfaces with
  | nil => simp [Interface.under]
  | cons name rest ih =>
    rw [List.foldl_cons, ih ((names_setParam ..).symm ▸ distinct), setParam_eq distinct,
      List.map_map]
    apply List.map_congr_left
    intro i _
    have once : (if i.name = name then i.withParam "bond-master" (.string bond) else i) =
        i.under (if i.name = name then some bond else none) := by
      split <;> rfl
    rw [Function.comp_apply, once, Interface.name_under, Interface.under_under]
    by_cases later : i.name ∈ rest
    · rw [if_pos later, if_pos (List.mem_cons_of_mem _ later)]
      rfl
    · simp only [List.mem_cons, later, or_false]
      rfl

/-- The interfaces that entries describe: every device in order, under the last bond that lists it. -/
def described (entries : List ConfigEntry) : List Interface :=
  (entries.filterMap (·.interface?)).map fun i => i.under (lastBond? entries i.name)

/-- The interfaces that entries describe have the names of their devices. -/
lemma names_described (entries : List ConfigEntry) :
    (described entries).map (·.name) = entries.filterMap (·.name?) := by
  have names : (described entries).map (·.name) =
      (entries.filterMap (·.interface?)).map (·.name) := by
    rw [described, List.map_map]
    exact List.map_congr_left fun i _ => i.name_under _
  rw [names, List.map_filterMap]
  simp only [ConfigEntry.name_interface?]

/-- The members of a bond are among the names that it uses. -/
lemma ConfigEntry.members_subset_uses (entry : ConfigEntry) : entry.members ⊆ entry.uses := by
  cases entry with
  | bond device members => exact List.Subset.refl _
  | _ => exact List.nil_subset _

/-- The last bond over a name is one that lists it. -/
lemma exists_of_lastBond? {entries : List ConfigEntry} {name bond : String}
    (last : lastBond? entries name = some bond) :
    ∃ entry ∈ entries, name ∈ entry.members ∧ entry.name? = some bond := by
  obtain ⟨entry, mem, lists⟩ := List.mem_filterMap.1 (List.mem_of_getLast? last)
  rw [ConfigEntry.bondOver?] at lists
  split at lists
  · rename_i listed
    cases lists
    exact ⟨entry, mem, listed, ConfigEntry.name?_of_uses (entry.members_subset_uses listed)⟩
  · cases lists

/-- One entry more keeps the closed form, if it refers to names before it and has a new name. -/
lemma takeInto_described {before : List ConfigEntry} {entry : ConfigEntry}
    (closed : ∀ earlier ∈ before, ∀ name ∈ earlier.members, name ∈ before.filterMap (·.name?))
    (known : ∀ name ∈ entry.uses, name ∈ before.filterMap (·.name?))
    (distinct : ((before ++ [entry]).filterMap (·.name?)).Nodup) :
    entry.takeInto (described before) = described (before ++ [entry]) := by
  rw [List.filterMap_append] at distinct
  obtain ⟨distinct, -, apart⟩ := List.nodup_append.1 distinct
  have single : [entry].filterMap (·.interface?) = entry.interface?.toList := by
    cases h : entry.interface? <;> simp [h]
  rw [ConfigEntry.takeInto, enslave_eq (by rwa [names_described])]
  rw [described, described, List.filterMap_append, List.map_append, List.map_map, single]
  congr 1
  · apply List.map_congr_left
    intro i _
    rw [Function.comp_apply, Interface.name_under, Interface.under_under, lastBond?_append,
      lastBond?_singleton, ConfigEntry.bondOver?]
  · -- nobody can have listed the new name
    cases added : entry.interface? with
    | none => rfl
    | some i =>
      have own : entry.name? = some i.name := by rw [← entry.name_interface?, added]; rfl
      have new : i.name ∉ before.filterMap (·.name?) := by
        intro old
        exact apart _ old i.name (by simp [own]) rfl
      have free : lastBond? (before ++ [entry]) i.name = none := by
        apply lastBond?_eq_none
        intro e mem listed
        rcases List.mem_append.1 mem with mem | mem
        · exact new (closed e mem _ listed)
        · rw [List.mem_singleton.1 mem] at listed
          exact new (known _ (entry.members_subset_uses listed))
      simp only [Option.toList_some, List.map_cons, List.map_nil, free]
      rfl

/-- Entries that are taken in lead to the closed form. -/
lemma eq_described_of_takeAll {before entries : List ConfigEntry} {interfaces : List Interface}
    (closed : ∀ earlier ∈ before, ∀ name ∈ earlier.members, name ∈ before.filterMap (·.name?))
    (distinct : ((before ++ entries).filterMap (·.name?)).Nodup)
    (h : takeAll (described before) entries = .ok interfaces) :
    interfaces = described (before ++ entries) := by
  induction entries generalizing before with
  | nil =>
    cases h
    rw [List.append_nil]
  | cons entry rest ih =>
    obtain ⟨_, checked, h⟩ := bind_eq_ok_iff.1 h
    rw [List.append_cons] at distinct ⊢
    have known : ∀ name ∈ entry.uses, name ∈ before.filterMap (·.name?) := by
      rw [← names_described]
      exact checkAllDefined_eq_ok_iff.1 checked
    have step : ((before ++ [entry]).filterMap (·.name?)).Nodup := by
      rw [List.filterMap_append] at distinct
      exact (List.nodup_append.1 distinct).1
    rw [takeInto_described closed known step] at h
    refine ih ?_ distinct h
    intro earlier mem name listed
    rw [List.filterMap_append]
    apply List.mem_append_left
    rcases List.mem_append.1 mem with mem | mem
    · exact closed earlier mem name listed
    · rw [List.mem_singleton.1 mem] at listed
      exact known name (entry.members_subset_uses listed)

/-! ## What the state says -/

/-- An interface is the one that an entry describes with its device, among all entries of a config. -/
structure Interface.IsOf (interface : Interface) (entries : List ConfigEntry) (entry : ConfigEntry)
    (device : Device) : Prop where
  described : entry.device? = some (interface.kind, device)
  name : interface.name = device.name
  mac : interface.mac = device.mac
  mtu : interface.mtu = device.mtu
  subnets : interface.subnets = device.subnets
  /-- What the kind of the entry asks for counts more than what the device says. -/
  own : ∀ param ∈ entry.ownParams, interface.params.get? param.1 = some param.2
  bond : ∀ bond, lastBond? entries interface.name = some bond →
    interface.params.get? "bond-master" = some (.string bond)
  /-- All other parameters are as the device says. -/
  others : ∀ name, name ∉ entry.ownParams.map (·.1) →
    (name = "bond-master" → lastBond? entries interface.name = none) →
    interface.params.get? name = device.params.get? name

/-- A state says what entries say: the devices, the routes and the resolver settings, each in order. -/
structure State.Translates (state : State) (entries : List ConfigEntry) : Prop where
  version : state.version = 1
  interfaces : List.Forall₂ (fun entry interface => ∃ device, interface.IsOf entries entry device)
    (entries.filter (·.isDevice)) state.interfaces
  routes : state.routes = entries.flatMap (·.routes)
  nameservers : state.dns.nameservers = entries.flatMap (·.nameservers)
  search : state.dns.search = entries.flatMap (·.search)

/-- Entries with the same devices, the same routes and the same resolver settings, each in order. -/
structure SameParts (entries entries' : List ConfigEntry) : Prop where
  devices : entries.filter (·.isDevice) = entries'.filter (·.isDevice)
  routes : entries.flatMap (·.routes) = entries'.flatMap (·.routes)
  nameservers : entries.flatMap (·.nameservers) = entries'.flatMap (·.nameservers)
  search : entries.flatMap (·.search) = entries'.flatMap (·.search)

/-- A parameter that is not set keeps its value. -/
lemma Interface.get?_withParams_of_notMem {params : List (String × Value)} {name : String}
    (other : name ∉ params.map (·.1)) (interface : Interface) :
    (interface.withParams params).params.get? name = interface.params.get? name := by
  induction params generalizing interface with
  | nil => rfl
  | cons param rest ih =>
    obtain ⟨first, others⟩ := not_or.1 (List.mem_cons.not.1 other)
    exact (ih others _).trans (Params.get?_insert_of_ne _ first _)

/-- Parameters with distinct names have the values that are set. -/
lemma Interface.get?_withParams_of_mem {params : List (String × Value)}
    (distinct : (params.map (·.1)).Nodup) (interface : Interface) :
    ∀ param ∈ params, (interface.withParams params).params.get? param.1 = some param.2 := by
  induction params generalizing interface with
  | nil => exact fun _ => nofun
  | cons param rest ih =>
    obtain ⟨first, distinct⟩ := List.nodup_cons.1 distinct
    intro param' mem
    rcases List.mem_cons.1 mem with rfl | mem
    · exact (get?_withParams_of_notMem first _).trans (Params.get?_insert_self ..)
    · exact ih distinct _ param' mem

/-- Setting parameters changes nothing else. -/
lemma Interface.frame_withParams (interface : Interface) (params : List (String × Value))
    (any : Params) :
    { interface.withParams params with params := any } = { interface with params := any } := by
  induction params generalizing interface with
  | nil => rfl
  | cons param rest ih => exact ih _

lemma Interface.frame_under (interface : Interface) (bond? : Option String) (any : Params) :
    { interface.under bond? with params := any } = { interface with params := any } := by
  cases bond? <;> rfl

/-- A bond sets one parameter and keeps the others. -/
lemma Interface.get?_under_of_ne (interface : Interface) (bond? : Option String) {name : String}
    (other : name = "bond-master" → bond? = none) :
    (interface.under bond?).params.get? name = interface.params.get? name := by
  cases bond? with
  | none => rfl
  | some bond => exact Params.get?_insert_of_ne _ (fun same => nomatch other same) _

lemma ConfigEntry.ownParams_distinct (entry : ConfigEntry) :
    (entry.ownParams.map (·.1)).Nodup := by
  cases entry <;> simp [ownParams]

lemma ConfigEntry.bond_notMem_ownParams (entry : ConfigEntry) :
    "bond-master" ∉ entry.ownParams.map (·.1) := by
  cases entry <;> simp [ownParams]

/-- The interface of an entry, under its last bond, is as the entry and the bond say. -/
lemma Interface.isOf_under (entries : List ConfigEntry) {entry : ConfigEntry} {interface : Interface}
    (added : entry.interface? = some interface) :
    ∃ device, (interface.under (lastBond? entries interface.name)).IsOf entries entry device := by
  obtain ⟨⟨kind, device⟩, described, rfl⟩ := Option.map_eq_some_iff.1 added
  change ∃ device', Interface.IsOf (under ((device.interface kind).withParams entry.ownParams)
    (lastBond? entries ((device.interface kind).withParams entry.ownParams).name)) entries entry
      device'
  generalize last : lastBond? entries ((device.interface kind).withParams entry.ownParams).name =
    bond?
  have frame := (frame_under ((device.interface kind).withParams entry.ownParams) bond?
    device.params).trans (frame_withParams ..)
  rw [← name_under _ bond?] at last
  refine ⟨device, ?_, congrArg (·.name) frame, congrArg (·.mac) frame, congrArg (·.mtu) frame,
    congrArg (·.subnets) frame, ?_, ?_, ?_⟩
  · rw [described, Option.some.injEq, Prod.mk.injEq]
    exact ⟨(congrArg (·.kind) frame).symm, rfl⟩
  · intro param mem
    rw [get?_under_of_ne]
    · exact get?_withParams_of_mem entry.ownParams_distinct _ param mem
    · intro same
      exact absurd (same ▸ List.mem_map_of_mem mem) entry.bond_notMem_ownParams
  · intro bond found
    cases last.symm.trans found
    exact Params.get?_insert_self ..
  · intro name other free
    rw [get?_under_of_ne _ _ (last ▸ free)]
    exact get?_withParams_of_notMem other _

lemma ConfigEntry.isSome_interface? (entry : ConfigEntry) :
    entry.interface?.isSome = entry.isDevice :=
  Option.isSome_map

/-- Each interface of the closed form is the one that its entry describes. -/
lemma isOf_described (all entries : List ConfigEntry) :
    List.Forall₂ (fun entry interface => ∃ device, interface.IsOf all entry device)
      (entries.filter (·.isDevice))
      ((entries.filterMap (·.interface?)).map fun i => i.under (lastBond? all i.name)) := by
  induction entries with
  | nil => exact .nil
  | cons entry rest ih =>
    have device := entry.isSome_interface?
    cases added : entry.interface? with
    | none =>
      rw [List.filterMap_cons_none added, List.filter_cons_of_neg (by simp [← device, added])]
      exact ih
    | some interface =>
      rw [List.filterMap_cons_some added, List.filter_cons_of_pos (by simp [← device, added])]
      exact .cons (Interface.isOf_under all added) ih

/-- The state of accepted entries says what they say. -/
lemma State.translates_of_ofEntries {entries : List ConfigEntry} {state : State}
    (accepted : ofEntries entries = .ok state) : state.Translates entries := by
  obtain ⟨taken, parts, valid⟩ := ofEntries_eq_ok_iff.1 accepted
  have distinct : (entries.filterMap (·.name?)).Nodup := by
    rw [← names_of_ofEntries accepted]
    exact valid.distinct
  have interfaces : state.interfaces = described entries :=
    @eq_described_of_takeAll [] _ _ (fun _ => nofun) distinct taken
  refine ⟨valid.version, ?_, ?_, ?_, ?_⟩
  · rw [interfaces]
    exact isOf_described entries entries
  · rw [parts]
    rfl
  · rw [parts]
    rfl
  · rw [parts]
    rfl

/-- In lists that are related item by item, every item of one has a partner in the other. -/
lemma exists_of_forall₂ {α β : Type} {r : α → β → Prop} {as : List α} {bs : List β}
    (related : List.Forall₂ r as bs) :
    (∀ a ∈ as, ∃ b ∈ bs, r a b) ∧ ∀ b ∈ bs, ∃ a ∈ as, r a b := by
  induction related with
  | nil => exact ⟨fun _ => nofun, fun _ => nofun⟩
  | @cons a b as bs first _ ih =>
    obtain ⟨left, right⟩ := ih
    refine ⟨List.forall_mem_cons.2 ⟨⟨b, List.mem_cons_self, first⟩, ?_⟩,
      List.forall_mem_cons.2 ⟨⟨a, List.mem_cons_self, first⟩, ?_⟩⟩
    · intro a' mem
      obtain ⟨b', mem', related⟩ := left a' mem
      exact ⟨b', List.mem_cons_of_mem _ mem', related⟩
    · intro b' mem
      obtain ⟨a', mem', related⟩ := right b' mem
      exact ⟨a', List.mem_cons_of_mem _ mem', related⟩

/-- Each device of a config is described by an interface of its state. -/
lemma State.Translates.exists_interface {entries : List ConfigEntry} {state : State}
    (translates : state.Translates entries) {entry : ConfigEntry} (mem : entry ∈ entries)
    {kind : InterfaceKind} {device : Device} (describes : entry.device? = some (kind, device)) :
    ∃ interface ∈ state.interfaces, interface.IsOf entries entry device := by
  have isDevice : entry.isDevice = true := by
    rw [ConfigEntry.isDevice, describes]
    rfl
  obtain ⟨interface, there, device', isOf⟩ :=
    (exists_of_forall₂ translates.interfaces).1 entry (List.mem_filter.2 ⟨mem, isDevice⟩)
  cases describes.symm.trans isOf.described
  exact ⟨interface, there, isOf⟩

/-- Each interface of the state of a config is that of a device. -/
lemma State.Translates.exists_entry {entries : List ConfigEntry} {state : State}
    (translates : state.Translates entries) {interface : Interface}
    (mem : interface ∈ state.interfaces) :
    ∃ entry ∈ entries, ∃ device, interface.IsOf entries entry device := by
  obtain ⟨entry, there, isOf⟩ := (exists_of_forall₂ translates.interfaces).2 interface mem
  exact ⟨entry, (List.mem_filter.1 there).1, isOf⟩

/-- Devices, routes and resolver settings do not depend on each other's places. -/
lemma State.ofEntries_congr {entries entries' : List ConfigEntry} (same : SameParts entries entries') :
    ofEntries entries = ofEntries entries' := by
  have parts (interfaces : List Interface) :
      ofParts interfaces entries = ofParts interfaces entries' := by
    rw [ofParts, same.routes, same.nameservers, same.search, ofParts]
  rw [ofEntries_eq, ofEntries_eq, ← takeAll_filter, same.devices, takeAll_filter]
  simp only [parts]

/-- The state of a config that is accepted says what its entries say, in their order, and it does not
matter how devices, routes and resolver settings are mixed. The entries of a text are all that counts
for its state. -/
theorem State.translation_is_exact :
    (∀ entries state, ofEntries entries = .ok state → state.Translates entries) ∧
    (∀ entries entries', SameParts entries entries' → ofEntries entries = ofEntries entries') ∧
    ∀ text entries, parseEntries text = .ok entries → parseConfig text = ofEntries entries := by
  exact ⟨fun _ _ => translates_of_ofEntries, fun _ _ => ofEntries_congr,
    fun _ _ => parseConfig_of_parseEntries⟩

/-- An interface under two bonds, the second of which is over the first. -/
def twoBonds : List ConfigEntry := [
  .nameserver ["192.0.2.1"] [],
  .physical { name := "eth0", params := .ofList [("bond-master", .string "none")] },
  .route { network := "10.0.0.0/8", gateway := "192.0.2.9" },
  .bond { name := "bond0", params := .ofList [("bond-mode", .int 1), ("bond-slaves", .null)] }
    ["eth0"],
  .nameserver ["192.0.2.2"] ["example.com"],
  .bond { name := "bond1" } ["bond0", "eth0"]]

/-- The entries of `twoBonds` with the devices last. -/
def twoBondsLast : List ConfigEntry :=
  twoBonds.filter (!·.isDevice) ++ twoBonds.filter (·.isDevice)

/-- Both lists of entries are accepted for one state, which says what they say. -/
theorem State.translation_is_exact_twoBonds :
    ∃ state, ofEntries twoBonds = .ok state ∧ state.Translates twoBonds ∧
      SameParts twoBonds twoBondsLast ∧ ofEntries twoBondsLast = .ok state := by
  have same : SameParts twoBonds twoBondsLast := ⟨rfl, rfl, rfl, rfl⟩
  obtain ⟨exact, mixed, -⟩ := translation_is_exact
  cases made : ofEntries twoBonds with
  | error fault =>
    have accepted : (ofEntries twoBonds).isOk = true := by rfl
    rw [made] at accepted
    cases accepted
  | ok state => exact ⟨state, rfl, exact _ _ made, same, (mixed _ _ same).symm.trans made⟩

end TargetNet.Network
