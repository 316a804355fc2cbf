import Mathlib.Data.List.Basic
import Mathlib.Tactic.Common
import TargetNet.Proofs.Interfaces.Aliases

/-!
# The MTU of an interface

The MTU of an interface stands in the stanza of each of its subnets. An interface without subnets has a
stanza all the same, but the MTU does not stand in it, unless a parameter of the interface happens to
say it (`mtu_is_written_iff`).
-/

namespace TargetNet.Interfaces

open Network (State Interface ConfigEntry)

/-- The line for an MTU. -/
def mtuLine (mtu : UInt32) : String :=
  "    mtu " ++ Decimal.text mtu.toNat

variable {postupAlias : Bool} {interface : Interface} {stanza : Stanza} {mtu : UInt32}

/-! ## The line for an MTU -/

/-- No other option has the line: after the indentation its one space is that behind the keyword. -/
lemma line_eq_mtuLine_iff {setting : Setting} :
    setting.line = mtuLine mtu ↔ setting = ⟨"mtu", Decimal.text mtu.toNat⟩ := by
  have asked : (mtuLine mtu).toList =
      "    ".toList ++ ("mtu".toList ++ ' ' :: Decimal.ofNat mtu.toNat) := by
    simp [mtuLine, Decimal.text]
  have written : setting.line.toList =
      "    ".toList ++ (setting.keyword.toList ++ ' ' :: setting.value.toList) := by
    simp [Setting.line, indentation]
  constructor
  · intro same
    have chars := congrArg String.toList same
    rw [asked, written, List.append_cancel_left_eq, eq_comm,
      List.append_cons_inj_of_notMem (by decide) (Decimal.notMem_ofNat (by decide) _)] at chars
    obtain ⟨keyword, -, value⟩ := chars
    rw [Setting.mk.injEq, ← String.toList_inj, ← String.toList_inj, Decimal.text]
    exact ⟨keyword.symm, value.symm.trans String.toList_ofList.symm⟩
  · rintro rfl
    refine String.toList_inj.1 (written.trans (Eq.trans ?_ asked.symm))
    simp only [Decimal.text, String.toList_ofList]

/-- A line that is not indented is another one. -/
lemma ne_mtuLine {start rest : String} {c : Char} (first : start.toList.head? = some c)
    (other : c ≠ ' ') : start ++ rest ≠ mtuLine mtu := by
  have indented : (mtuLine mtu).toList.head? = some ' ' := by
    rw [mtuLine, String.toList_append]
    rfl
  intro same
  rw [← same, String.toList_append, List.head?_append, first] at indented
  exact other (Option.some.inj indented)

/-- The line that says when a name comes up sets no MTU. -/
lemma controlLine_ne_mtuLine {control : Network.Control} {name : String} :
    controlLine control name ≠ mtuLine mtu := by
  cases control with
  | auto => exact ne_mtuLine rfl (by decide)
  | hotplug => exact ne_mtuLine rfl (by decide)
  | manual => exact ne_mtuLine rfl (by decide)

lemma header_ne_mtuLine : stanza.header ≠ mtuLine mtu := by
  simp only [Stanza.header, String.append_assoc]
  exact ne_mtuLine rfl (by decide)

/-- A stanza sets an MTU in an option or not at all. -/
lemma mtuLine_mem_lines_iff :
    mtuLine mtu ∈ stanza.lines ↔ ⟨"mtu", Decimal.text mtu.toNat⟩ ∈ stanza.settings := by
  have control : mtuLine mtu ∉ (stanza.control.map (controlLine · stanza.name)).toList := by
    intro mem
    obtain ⟨control, -, same⟩ := Option.map_eq_some_iff.1 (Option.mem_toList.1 mem)
    exact controlLine_ne_mtuLine same
  rw [Stanza.lines, List.mem_append, List.mem_cons, List.mem_map, or_iff_right control,
    or_iff_right header_ne_mtuLine.symm]
  constructor
  · rintro ⟨setting, mem, line⟩
    exact line_eq_mtuLine_iff.1 line ▸ mem
  · intro mem
    exact ⟨_, mem, line_eq_mtuLine_iff.2 rfl⟩

/-! ## Stanzas with and without it -/

/-- A stanza for a subnet has the MTU. -/
lemma mtu_mem_of_configured (configured : interface.subnets ≠ []) (asked : interface.mtu = some mtu)
    (inBlock : stanza ∈ interfaceStanzas postupAlias interface) :
    ⟨"mtu", Decimal.text mtu.toNat⟩ ∈ stanza.settings := by
  obtain ⟨first, rest, subnets⟩ := List.exists_cons_of_ne_nil configured
  obtain ⟨place, subnet, -, rfl⟩ := (mem_interfaceStanzas_iff subnets).1 inBlock
  have listed : ⟨"mtu", Decimal.text mtu.toNat⟩ ∈ mtuSettings interface := by
    rw [mtuSettings, asked]
    exact List.mem_singleton_self _
  exact List.mem_append_left _ (List.mem_append_right _ listed)

/-- The stanza of an interface without subnets has the MTU if a parameter says it. -/
lemma mtu_mem_bareStanza_iff :
    ⟨"mtu", Decimal.text mtu.toNat⟩ ∈ (bareStanza interface).settings ↔
      ∃ value, interface.params.get? "mtu" = some value ∧
        paramText value = some (Decimal.text mtu.toNat) := by
  have other : ⟨"mtu", Decimal.text mtu.toNat⟩ ∉ (if interface.kind = .physical then []
      else textSetting "hwaddress" (interface.mac.map fun mac => "ether " ++ mac)) := by
    split
    · exact List.not_mem_nil
    · cases interface.mac <;> simp [textSetting]
  rw [bareStanza, interfaceSettings, List.mem_append, or_iff_right other]
  exact mem_paramSettings_iff

/-- Every stanza of an interface has the line for its MTU exactly if the interface has subnets, or a
parameter that says the same. -/
theorem mtu_is_written_iff (postupAlias : Bool) (state : State) :
    (∃ ordered : List Interface, ordered.Perm state.interfaces ∧
      stanzas postupAlias state =
        loopbackStanza state :: ordered.flatMap (interfaceStanzas postupAlias)) ∧
    ∀ interface ∈ state.interfaces, ∀ mtu, interface.mtu = some mtu →
      interfaceStanzas postupAlias interface ≠ [] ∧
      ∀ stanza ∈ interfaceStanzas postupAlias interface,
        (mtuLine mtu ∈ stanza.lines ↔ interface.subnets ≠ [] ∨
          ∃ value, interface.params.get? "mtu" = some value ∧
            paramText value = some (Decimal.text mtu.toNat)) := by
  refine ⟨⟨_, inOrder_perm state.interfaces, rfl⟩, ?_⟩
  intro interface _ mtu asked
  refine ⟨interfaceStanzas_ne_nil postupAlias interface, ?_⟩
  intro stanza inBlock
  rw [mtuLine_mem_lines_iff]
  by_cases bare : interface.subnets = []
  · rw [interfaceStanzas, bare] at inBlock
    cases List.mem_singleton.1 inBlock
    rw [mtu_mem_bareStanza_iff, or_iff_right fun configured => configured bare]
  · exact iff_of_true (mtu_mem_of_configured bare asked inBlock) (.inl bare)

/-- A bond over an interface without subnets, both with an MTU. -/
def jumboBond : List ConfigEntry :=
  [.physical { name := "eth0", mtu := some 9000 },
    .bond { name := "bond0", mtu := some 9000, subnets := [{ kind := .dhcp4 }] } ["eth0"]]

/-- The member of `jumboBond`. -/
def jumboMember : Interface where
  name := "eth0"
  kind := .physical
  mtu := some 9000
  params := .ofList [("bond-master", .string "bond0")]

/-- The MTU of the member is not written. -/
theorem mtu_is_written_iff_jumboBond :
    ∃ state, State.ofEntries jumboBond = .ok state ∧ jumboMember ∈ state.interfaces ∧
      jumboMember.mtu = some 9000 ∧ ∀ postupAlias,
        ∃ stanza ∈ stanzas postupAlias state, stanza.name = "eth0" ∧
          mtuLine 9000 ∉ stanza.lines := by
  refine ⟨_, rfl, List.mem_cons_self, rfl, fun postupAlias => ?_⟩
  obtain ⟨⟨ordered, perm, blocks⟩, written⟩ := mtu_is_written_iff postupAlias _
  have bare : bareStanza jumboMember ∈ interfaceStanzas postupAlias jumboMember :=
    List.mem_singleton_self _
  refine ⟨bareStanza jumboMember, ?_, rfl, ?_⟩
  · rw [blocks]
    exact List.mem_cons_of_mem _ (List.mem_flatMap.2 ⟨_, perm.mem_iff.2 List.mem_cons_self, bare⟩)
  · rw [(written jumboMember List.mem_cons_self 9000 rfl).2 _ bare]
    rintro (configured | ⟨value, found, -⟩)
    · exact configured rfl
    · cases found

end TargetNet.Interfaces
