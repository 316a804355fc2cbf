import Mathlib.Data.List.Nodup
import Mathlib.Tactic.Common
import TargetNet.Proofs.Network.Translation

/-!
# Links between bonds and members

A bond is linked with its members on both sides: it lists them, and each of them names the bond. The
list is the bond's alone, but a member has one name only, and each bond that lists it writes its own:
the last one counts. So both sides agree exactly as long as no interface is listed by two bonds
(`State.bond_links_agree_iff`), and a config where one is listed twice is not refused.
-/

namespace TargetNet.Network

open Yaml (Value)

/-- A parameter of the interface of a name. -/
def State.param? (state : State) (name param : String) : Option Value :=
  (state.interface? name).bind (·.params.get? param)

/-- What holds of each item and every later one, said of the places of an item. -/
lemma pairwise_iff_split {α : Type} {r : α → α → Prop} {items : List α} :
    items.Pairwise r ↔
      ∀ before item after, items = before ++ item :: after → ∀ later ∈ after, r item later := by
  constructor
  · rintro pairwise before item after rfl
    exact (List.pairwise_cons.1 (List.pairwise_append.1 pairwise).2.1).1
  · intro split
    induction items with
    | nil => exact .nil
    | cons first rest ih =>
      refine List.pairwise_cons.2 ⟨split [] first rest rfl, ih ?_⟩
      rintro before item after rfl
      exact split (first :: before) item after rfl

/-- Behind an entry that lists a name, a later bond over it counts, or else the entry's own. -/
lemma lastBond?_of_split {before after : List ConfigEntry} {entry : ConfigEntry} {name : String}
    (listed : name ∈ entry.members) :
    lastBond? (before ++ entry :: after) name =
      (lastBond? after name).or (some entry.owner) := by
  rw [List.append_cons, lastBond?_append, lastBond?_append, lastBond?_singleton,
    ConfigEntry.bondOver?, if_pos listed, Option.some_or]

section

variable {entries : List ConfigEntry} {state : State}

/-- An interface of an accepted config is found under its name. -/
lemma State.interface?_of_mem (accepted : ofEntries entries = .ok state) {interface : Interface}
    (mem : interface ∈ state.interfaces) : state.interface? interface.name = some interface := by
  obtain ⟨-, -, valid⟩ := ofEntries_eq_ok_iff.1 accepted
  cases found : state.interface? interface.name with
  | none =>
    have := List.find?_eq_none.1 found interface mem
    simp at this
  | some other =>
    have same : other.name = interface.name := by simpa using List.find?_some found
    rw [List.inj_on_of_nodup_map valid.distinct (List.mem_of_find?_eq_some found) mem same]

/-- A bond lists its members. -/
lemma State.slaves_of_bond (accepted : ofEntries entries = .ok state) {device : Device}
    {members : List String} (mem : .bond device members ∈ entries) :
    state.param? device.name "bond-slaves" = some (.string (Text.spaced members)) := by
  obtain ⟨interface, there, isOf⟩ := (translates_of_ofEntries accepted).exists_interface mem rfl
  rw [param?, ← isOf.name, interface?_of_mem accepted there]
  exact isOf.own _ List.mem_cons_self

/-- A member names the last bond that lists it. -/
lemma State.master_of_lastBond? (accepted : ofEntries entries = .ok state) {name bond : String}
    (last : lastBond? entries name = some bond) :
    state.param? name "bond-master" = some (.string bond) := by
  -- what is listed is used, so it is the name of a device
  obtain ⟨entry, mem, listed, -⟩ := exists_of_lastBond? last
  obtain ⟨used, -, -, isUsed, -⟩ :=
    places_of_uses accepted ⟨entry, mem, rfl, entry.members_subset_uses listed⟩
  obtain ⟨interface, there, rfl⟩ := exists_of_nameAt? ((isUsed used).2 rfl)
  obtain ⟨_, -, _, isOf⟩ := (translates_of_ofEntries accepted).exists_entry there
  rw [param?, interface?_of_mem accepted there]
  exact isOf.bond bond last

/-- A member names the bond that lists it unless a later bond lists it as well. -/
lemma State.master_eq_owner_iff {before after : List ConfigEntry} {entry : ConfigEntry}
    (accepted : ofEntries (before ++ entry :: after) = .ok state) {name : String}
    (listed : name ∈ entry.members) :
    state.param? name "bond-master" = some (.string entry.owner) ↔
      ∀ later ∈ after, name ∉ later.members := by
  have last : lastBond? (before ++ entry :: after) name = _ := lastBond?_of_split listed
  constructor
  · intro named later mem again
    -- then the last bond over the name is a later one, with a name of its own
    obtain ⟨other, found⟩ : ∃ other, lastBond? after name = some other := by
      rw [← Option.ne_none_iff_exists']
      intro none
      rw [lastBond?, List.getLast?_eq_none_iff, List.filterMap_eq_nil_iff] at none
      have := none later mem
      rw [ConfigEntry.bondOver?, if_pos again] at this
      cases this
    obtain ⟨bond, mem', -, own⟩ := exists_of_lastBond? found
    rw [found, Option.some_or] at last
    rw [master_of_lastBond? accepted last] at named
    obtain ⟨-, -, valid⟩ := ofEntries_eq_ok_iff.1 accepted
    have distinct := valid.distinct
    rw [names_of_ofEntries accepted, List.filterMap_append, List.filterMap_cons_some
      (ConfigEntry.name?_of_uses (entry.members_subset_uses listed))] at distinct
    obtain ⟨first, -⟩ := List.nodup_cons.1 (List.nodup_append.1 distinct).2.1
    apply first
    cases named
    exact List.mem_filterMap.2 ⟨bond, mem', own⟩
  · intro free
    rw [lastBond?_eq_none free, Option.none_or] at last
    exact master_of_lastBond? accepted last

end

/-- In the state of an accepted config every bond lists its members, and every member names the last
bond that lists it. So a member names a bond that lists it unless a later bond lists it as well, and
all links agree exactly if no interface is listed by two bonds. -/
theorem State.bond_links_agree_iff {entries : List ConfigEntry} {state : State}
    (accepted : ofEntries entries = .ok state) :
    (∀ text, parseEntries text = .ok entries → parseConfig text = .ok state) ∧
    (∀ device members, .bond device members ∈ entries →
      state.param? device.name "bond-slaves" = some (.string (Text.spaced members))) ∧
    (∀ name bond, lastBond? entries name = some bond →
      state.param? name "bond-master" = some (.string bond)) ∧
    (∀ before entry after, entries = before ++ entry :: after → ∀ name ∈ entry.members,
      (state.param? name "bond-master" = some (.string entry.owner) ↔
        ∀ later ∈ after, name ∉ later.members)) ∧
    ((∀ entry ∈ entries, ∀ name ∈ entry.members,
        state.param? name "bond-master" = some (.string entry.owner)) ↔
      entries.Pairwise fun entry later => ∀ name ∈ entry.members, name ∉ later.members) := by
  refine ⟨fun text parsed => (parseConfig_of_parseEntries parsed).trans accepted,
    fun _ _ => slaves_of_bond accepted, fun _ _ => master_of_lastBond? accepted, ?_, ?_⟩
  · rintro before entry after rfl name listed
    exact master_eq_owner_iff accepted listed
  · rw [pairwise_iff_split]
    constructor
    · rintro agree before entry after rfl later mem name listed
      exact (master_eq_owner_iff accepted listed).1 (agree entry (by simp) name listed) later mem
    · intro apart entry mem name listed
      obtain ⟨before, after, rfl⟩ := List.append_of_mem mem
      exact (master_eq_owner_iff accepted listed).2 fun later mem' =>
        apart before entry after rfl later mem' name listed

/-- An interface that two bonds list. -/
def sharedMember : List ConfigEntry :=
  [.physical { name := "eth0" }, .bond { name := "bond0" } ["eth0"],
    .bond { name := "bond1" } ["eth0"]]

/-- Both bonds list the interface, which names the second one only. -/
theorem State.bond_links_agree_iff_sharedMember :
    ∃ state, ofEntries sharedMember = .ok state ∧
      state.param? "bond0" "bond-slaves" = some (.string "eth0") ∧
      state.param? "bond1" "bond-slaves" = some (.string "eth0") ∧
      state.param? "eth0" "bond-master" = some (.string "bond1") ∧
      state.param? "eth0" "bond-master" ≠ some (.string "bond0") := by
  cases made : ofEntries sharedMember with
  | error fault =>
    have accepted : (ofEntries sharedMember).isOk = true := by rfl
    rw [made] at accepted
    cases accepted
  | ok state =>
    obtain ⟨-, lists, names, agrees, -⟩ := bond_links_agree_iff made
    refine ⟨state, rfl, lists { name := "bond0" } ["eth0"] (by simp [sharedMember]),
      lists { name := "bond1" } ["eth0"] (by simp [sharedMember]), names _ _ rfl, fun first => ?_⟩
    have alone := (agrees [.physical { name := "eth0" }] (.bond { name := "bond0" } ["eth0"])
      [.bond { name := "bond1" } ["eth0"]] rfl "eth0" (List.mem_singleton_self _)).1 first
    exact alone _ (List.mem_singleton_self _) (List.mem_singleton_self _)

end TargetNet.Network
