import Mathlib.Data.List.Nodup
import Mathlib.Data.List.TakeWhile
import Mathlib.Tactic.Common
import TargetNet.Proofs.Network.Accepted
import TargetNet.Proofs.Network.Source
import TargetNet.Proofs.Text.Trim

/-!
# Valid states

`State.IsValid` says what every state must satisfy, each condition for itself. The check goes
through the interfaces once, with the names that it has seen; it succeeds on exactly the valid
states (`State.validate_eq_ok_iff`), and no source gives any other state.
-/

namespace TargetNet

namespace Network

/-- What an interface must satisfy by itself. -/
structure Interface.IsValid (interface : Interface) : Prop where
  named : Text.trimString interface.name ≠ ""
  not_loopback : interface.name ≠ "lo"
  addressed : ∀ subnet ∈ interface.subnets, subnet.kind = .static ∨ subnet.kind = .static6 →
    ∃ address, subnet.address = some address

/-- What every state must satisfy. -/
structure State.IsValid (state : State) : Prop where
  version : state.version = 1
  interfaces : ∀ interface ∈ state.interfaces, interface.IsValid
  distinct : (state.interfaces.map (·.name)).Nodup

lemma SubnetKind.isStatic_iff {kind : SubnetKind} :
    kind.isStatic = true ↔ kind = .static ∨ kind = .static6 := by
  cases kind <;> decide

/-- One interface passes exactly if it is valid and its name is new. -/
lemma Interface.validate_eq_ok_iff {seen : List String} {interface : Interface} :
    interface.validate seen = .ok () ↔ interface.IsValid ∧ interface.name ∉ seen := by
  have blank := Text.trimString_eq_empty_iff (s := interface.name)
  have bare : (interface.subnets.any fun s => s.kind.isStatic && s.address.isNone) = true ↔
      ¬ ∀ subnet ∈ interface.subnets, subnet.kind = .static ∨ subnet.kind = .static6 →
        ∃ address, subnet.address = some address := by
    simp [SubnetKind.isStatic_iff, ← Option.ne_none_iff_exists']
  rw [validate]
  split
  · rename_i empty
    exact ⟨by rintro ⟨⟩, fun h => absurd (blank.2 empty) h.1.named⟩
  · rename_i named
    split
    · rename_i loopback
      exact ⟨by rintro ⟨⟩, fun h => absurd (eq_of_beq loopback) h.1.not_loopback⟩
    · rename_i other
      split
      · rename_i known
        exact ⟨by rintro ⟨⟩, fun h => absurd (by simpa using known) h.2⟩
      · rename_i new
        split
        · rename_i missing
          exact ⟨by rintro ⟨⟩, fun h => absurd h.1.addressed (bare.1 missing)⟩
        · rename_i addressed
          refine ⟨fun _ => ⟨⟨?_, by simpa using other, ?_⟩, by simpa using new⟩, fun _ => rfl⟩
          · exact fun empty => named (blank.1 empty)
          · exact not_not.1 fun missing => addressed (bare.2 missing)

/-- Interfaces pass exactly if each is valid, with names that are new and not repeated. -/
lemma validateInterfaces_eq_ok_iff {seen : List String} {interfaces : List Interface} :
    validateInterfaces seen interfaces = .ok () ↔
      (∀ interface ∈ interfaces, interface.IsValid) ∧ (interfaces.map (·.name)).Nodup ∧
        ∀ interface ∈ interfaces, interface.name ∉ seen := by
  induction interfaces generalizing seen with
  | nil => simp [validateInterfaces]
  | cons interface rest ih =>
    have passes : validateInterfaces seen (interface :: rest) = .ok () ↔
        interface.validate seen = .ok () ∧
          validateInterfaces (interface.name :: seen) rest = .ok () := by
      rw [validateInterfaces, Yaml.bind_eq_ok_iff]
      constructor
      · rintro ⟨_, first, others⟩
        exact ⟨first, others⟩
      · intro h
        exact ⟨(), h⟩
    rw [passes, Interface.validate_eq_ok_iff, ih, List.forall_mem_cons, List.forall_mem_cons]
    simp only [List.map_cons, List.nodup_cons, List.mem_map, List.mem_cons, not_or, not_exists,
      not_and]
    constructor
    · rintro ⟨⟨valid, new⟩, others, distinct, later⟩
      exact ⟨⟨valid, others⟩, ⟨fun other mem => (later other mem).1, distinct⟩, new,
        fun other mem => (later other mem).2⟩
    · rintro ⟨⟨valid, others⟩, ⟨apart, distinct⟩, new, later⟩
      exact ⟨⟨valid, new⟩, others, distinct, fun other mem => ⟨apart other mem, later other mem⟩⟩

/-- A state passes exactly if it is valid. -/
lemma State.validate_eq_ok_iff {state : State} : state.validate = .ok () ↔ state.IsValid := by
  rw [validate]
  split
  · rename_i other
    exact ⟨by rintro ⟨⟩, fun h => absurd h.version other⟩
  · rename_i supported
    rw [validateInterfaces_eq_ok_iff]
    constructor
    · rintro ⟨valid, distinct, -⟩
      exact ⟨not_not.1 supported, valid, distinct⟩
    · rintro ⟨-, valid, distinct⟩
      exact ⟨valid, distinct, by simp⟩

/-- A state passes the check exactly if it is valid, and whatever a source gives is valid: a state
document, a config, or the files that a state is resolved from. -/
theorem State.every_source_is_valid [Circumstances] :
    (∀ state : State, state.validate = .ok () ↔ state.IsValid) ∧
    (∀ text state, State.parse text = .ok state → state.IsValid) ∧
    (∀ text state, State.parseConfig text = .ok state → state.IsValid) ∧
    ∀ stateFile configFile fs state,
      (resolve stateFile configFile fs).result = .ok state → state.IsValid := by
  have fromState {text : String} {state : State} (h : State.parse text = .ok state) :
      state.IsValid := validate_eq_ok_iff.1 (State.parse_spec h).1
  have fromConfig {text : String} {state : State} (h : State.parseConfig text = .ok state) :
      state.IsValid := validate_eq_ok_iff.1 (State.parseConfig_spec h).1
  refine ⟨fun _ => validate_eq_ok_iff, fun _ _ => fromState, fun _ _ => fromConfig, ?_⟩
  intro stateFile configFile fs state h
  obtain ⟨text, accepted | accepted⟩ := accepted_of_resolve h
  · exact fromState accepted
  · exact fromConfig accepted

end Network
end TargetNet
