import Mathlib.Data.List.Basic
import Mathlib.Tactic.Common
import TargetNet.Network.Config
import TargetNet.Proofs.Interfaces.Texts

/-!
# Routes told apart

What is written for a route are words with a space between each two, so texts without a space in them
are found again where they were put (`spaced_inj`), and two routes are written alike exactly if they
have the same `Destination`, gateway and metric (`routeLines_eq_iff`). A destination leaves out how all
networks of a family are spelled, which is no loss, and the netmask of an IPv6 network, which is one:
two routes that differ in nothing else are written alike (`routes_are_told_apart_iff`).
-/

namespace TargetNet

namespace Text

/-- There is no space in a text. -/
def Unspaced (s : String) : Prop :=
  ' ' ∉ s.toList

instance (s : String) : Decidable (Unspaced s) :=
  inferInstanceAs (Decidable (¬ _))

/-- Texts without a space are the pieces between the spaces of what is put together from them. -/
lemma splitOn_spaced {texts : List String} (nonempty : texts ≠ [])
    (unspaced : ∀ s ∈ texts, Unspaced s) :
    (spaced texts).toList.splitOn ' ' = texts.map String.toList := by
  rw [spaced, String.toList_intercalate]
  apply List.splitOn_intercalate
  · intro piece mem
    obtain ⟨s, there, rfl⟩ := List.mem_map.1 mem
    exact unspaced s there
  · exact mt List.map_eq_nil_iff.1 nonempty

/-- Texts without spaces can be told from what they are joined to. -/
lemma spaced_inj {texts texts' : List String} (nonempty : texts ≠ []) (nonempty' : texts' ≠ [])
    (unspaced : ∀ s ∈ texts, Unspaced s) (unspaced' : ∀ s ∈ texts', Unspaced s) :
    spaced texts = spaced texts' ↔ texts = texts' := by
  constructor
  · intro same
    have pieces := splitOn_spaced nonempty unspaced
    rw [same, splitOn_spaced nonempty' unspaced'] at pieces
    exact List.map_injective_iff.2 (fun _ _ => String.toList_injective) pieces.symm
  · rintro rfl
    rfl

end Text

lemma Decimal.unspaced_text (n : Nat) : Text.Unspaced (text n) := by
  rw [Text.Unspaced, text, String.toList_ofList]
  exact notMem_ofNat rfl n

namespace Interfaces

open Network (State Route ConfigEntry)
open Text (Unspaced)

/-- The lines that are written for a route. -/
def routeLines (route : Route) : List String :=
  (routeSettings route).map Setting.line

/-- The lines for two routes are the same if and only if the texts in them are. -/
lemma routeLines_eq_iff_text {r s : Route} :
    routeLines r = routeLines s ↔ routeText r = routeText s := by
  constructor
  · intro same
    have first := (List.cons.inj same).1
    simpa [Setting.line] using first
  · intro same
    rw [routeLines, routeLines, routeSettings, routeSettings, same]

/-! ## Destinations -/

/-- Where a route leads, as far as it is told. -/
inductive Destination where
  /-- All networks of a family. -/
  | all (family : Family)
  /-- One network of IPv6. Its netmask is not told. -/
  | inet6 (network : String)
  /-- One network of IPv4, or what passes for one. -/
  | inet (network : String) (netmask : Option String)

namespace Destination

/-- The destination of a route. -/
def of (route : Route) : Destination :=
  if isDefaultRoute route then
    .all (if Network.hasColon route.network then .inet6 else .inet)
  else if Network.hasColon route.network then .inet6 route.network
  else .inet route.network route.netmask

/-- The words for a destination. -/
def words : Destination → List String
  | .all .inet6 => ["-A", "inet6", "default"]
  | .all .inet => ["default"]
  | .inet6 network => ["-A", "inet6", network]
  | .inet network (some netmask) => ["-net", network, "netmask", netmask]
  | .inet network none => ["-net", network]

lemma words_ne_nil (d : Destination) : d.words ≠ [] := by
  unfold words
  split <;> exact List.cons_ne_nil _ _

/-- The word for all networks is not taken for the name of one of them. -/
def IsProper : Destination → Prop
  | .inet6 network => network ≠ "default"
  | _ => True

variable {route r s : Route}

/-- The destination of a route is proper: what is called default leads to all networks. -/
lemma isProper_of (route : Route) : (of route).IsProper := by
  rw [of]
  split
  · trivial
  · split
    · rename_i colon
      intro named
      rw [named] at colon
      cases colon
    · trivial

/-- Destinations are the same if they are all networks of one family, or if they are one and the same
network. Netmasks count for IPv4 only. -/
lemma of_eq_iff : of r = of s ↔
    (isDefaultRoute r = true ∧ isDefaultRoute s = true ∧
      Network.hasColon r.network = Network.hasColon s.network) ∨
    (isDefaultRoute r = false ∧ isDefaultRoute s = false ∧ r.network = s.network ∧
      (Network.hasColon r.network = false → r.netmask = s.netmask)) := by
  have apart {m n : String} (colon : Network.hasColon m = true) (plain : Network.hasColon n = false) :
      m ≠ n := by
    rintro rfl
    exact Bool.false_ne_true (plain.symm.trans colon)
  rw [of, of]
  cases isDefaultRoute r with
  | true =>
    cases isDefaultRoute s with
    | true => cases Network.hasColon r.network <;> cases Network.hasColon s.network <;> simp
    | false => cases Network.hasColon s.network <;> simp
  | false =>
    cases isDefaultRoute s with
    | true => cases Network.hasColon r.network <;> simp
    | false =>
      cases first : Network.hasColon r.network with
      | true =>
        cases second : Network.hasColon s.network with
        | true => simp
        | false => simp [apart first second]
      | false =>
        cases second : Network.hasColon s.network with
        | true => simp [(apart second first).symm]
        | false => simp

/-- Where a word follows that is not part of a destination, the destination can be told. -/
lemma words_append_inj {d d' : Destination} (proper : d.IsProper) (proper' : d'.IsProper)
    {rest rest' : List String} :
    d.words ++ "gw" :: rest = d'.words ++ "gw" :: rest' ↔ d = d' ∧ rest = rest' := by
  constructor
  · intro same
    -- The first words tell the forms apart. What comes after an IPv4 network tells whether it has a
    -- netmask, whatever the network and the netmask are called.
    cases d with
    | all family =>
      cases d' with
      | all family' => cases family <;> cases family' <;> simp_all [words]
      | inet6 network => cases family <;> simp_all [words, IsProper]
      | inet network netmask => cases family <;> cases netmask <;> simp_all [words]
    | inet6 network =>
      cases d' with
      | all family => cases family <;> simp_all [words, IsProper]
      | inet6 network' => simp_all [words]
      | inet network' netmask => cases netmask <;> simp_all [words]
    | inet network netmask =>
      cases d' with
      | all family => cases family <;> cases netmask <;> simp_all [words]
      | inet6 network' => cases netmask <;> simp_all [words]
      | inet network' netmask' => cases netmask <;> cases netmask' <;> simp_all [words]
  · rintro ⟨rfl, rfl⟩
    rfl

/-- What is written for a destination are its words. -/
lemma routeTarget_eq (route : Route) : routeTarget route = Text.spaced (of route).words := by
  rw [routeTarget, of, ← String.toList_inj]
  cases isDefaultRoute route with
  | true => cases Network.hasColon route.network <;> rfl
  | false =>
    cases Network.hasColon route.network with
    | true => simp [words, Text.spaced]
    | false => cases route.netmask <;> simp [words, Text.spaced]

end Destination

/-! ## The words of a route -/

/-- The words for a metric. -/
def metricWords : Option UInt32 → List String
  | some metric => ["metric", Decimal.text metric.toNat]
  | none => []

/-- The words for a route. -/
def routeWords (route : Route) : List String :=
  (Destination.of route).words ++ "gw" :: route.gateway :: metricWords route.metric

/-- The words for a metric tell it. -/
lemma metricWords_injective {metric metric' : Option UInt32}
    (same : metricWords metric = metricWords metric') : metric = metric' := by
  cases metric with
  | none =>
    cases metric' with
    | none => rfl
    | some n => cases same
  | some m =>
    cases metric' with
    | none => cases same
    | some n =>
      have number := Decimal.text_injective (List.cons.inj (List.cons.inj same).2).1
      rw [UInt32.toNat_inj.1 number]

/-- What is written for a route are its words. -/
lemma routeText_eq (route : Route) : routeText route = Text.spaced (routeWords route) := by
  rw [routeText, Destination.routeTarget_eq, routeWords, Text.spaced, Text.spaced,
    String.intercalate_append_of_ne_nil (Destination.words_ne_nil _) (List.cons_ne_nil _ _),
    ← String.toList_inj]
  cases route.metric <;> simp [metricWords]

/-- If there are no spaces in a route, then there are none in its words. -/
lemma unspaced_routeWords {route : Route} (unspaced : ∀ s ∈ routeTexts route, Unspaced s) :
    ∀ word ∈ routeWords route, Unspaced word := by
  obtain ⟨network, unspaced⟩ := List.forall_mem_cons.1 unspaced
  obtain ⟨netmask, gateway⟩ := List.forall_mem_append.1 unspaced
  have destination : ∀ word ∈ (Destination.of route).words, Unspaced word := by
    rw [Destination.of]
    split
    · split <;> decide
    · split
      · simp only [Destination.words, List.forall_mem_cons]
        exact ⟨by decide, by decide, network, List.forall_mem_nil _⟩
      · cases masked : route.netmask with
        | none =>
          simp only [Destination.words, List.forall_mem_cons]
          exact ⟨by decide, network, List.forall_mem_nil _⟩
        | some mask =>
          simp only [Destination.words, List.forall_mem_cons]
          exact ⟨by decide, network, by decide, netmask mask (by simp [masked]),
            List.forall_mem_nil _⟩
  have metric : ∀ word ∈ metricWords route.metric, Unspaced word := by
    cases route.metric with
    | none => exact List.forall_mem_nil _
    | some n =>
      rw [metricWords, List.forall_mem_cons, List.forall_mem_singleton]
      exact ⟨by decide, Decimal.unspaced_text _⟩
  rw [routeWords, List.forall_mem_append, List.forall_mem_cons, List.forall_mem_cons]
  exact ⟨destination, by decide, gateway _ (List.mem_singleton_self _), metric⟩

variable {r s : Route}

/-- Routes are written alike exactly if they have the same destination, gateway and metric. -/
lemma routeLines_eq_iff (unspaced : ∀ text ∈ routeTexts r, Unspaced text)
    (unspaced' : ∀ text ∈ routeTexts s, Unspaced text) :
    routeLines r = routeLines s ↔
      Destination.of r = Destination.of s ∧ r.gateway = s.gateway ∧ r.metric = s.metric := by
  have nonempty (route : Route) : routeWords route ≠ [] :=
    List.append_ne_nil_of_left_ne_nil (Destination.words_ne_nil _) _
  rw [routeLines_eq_iff_text, routeText_eq, routeText_eq, Text.spaced_inj (nonempty r)
    (nonempty s) (unspaced_routeWords unspaced) (unspaced_routeWords unspaced'), routeWords, routeWords,
    Destination.words_append_inj (Destination.isProper_of r) (Destination.isProper_of s),
    List.cons.injEq]
  refine and_congr_right fun _ => and_congr_right fun _ => ?_
  exact ⟨metricWords_injective, congrArg metricWords⟩

/-! ## What is lost -/

/-- Both routes are the default route of one family, over one gateway and with one metric. -/
structure SameDefault (r s : Route) : Prop where
  first : isDefaultRoute r = true
  second : isDefaultRoute s = true
  family : Network.hasColon r.network = Network.hasColon s.network
  gateway : r.gateway = s.gateway
  metric : r.metric = s.metric

/-- Both routes lead to one IPv6 network, and they differ in the netmask and in nothing else. -/
structure DifferInMask (r s : Route) : Prop where
  first : isDefaultRoute r = false
  second : isDefaultRoute s = false
  ipv6 : Network.hasColon r.network = true
  network : r.network = s.network
  netmask : r.netmask ≠ s.netmask
  gateway : r.gateway = s.gateway
  metric : r.metric = s.metric

/-- A route that is not the default route is told by its texts and its metric, up to an IPv6 netmask. -/
lemma routeLines_eq_iff_cases (unspaced : ∀ text ∈ routeTexts r, Unspaced text)
    (unspaced' : ∀ text ∈ routeTexts s, Unspaced text) :
    routeLines r = routeLines s ↔ r = s ∨ SameDefault r s ∨ DifferInMask r s := by
  rw [routeLines_eq_iff unspaced unspaced', Destination.of_eq_iff]
  constructor
  · rintro ⟨⟨first, second, family⟩ | ⟨first, second, network, netmask⟩, gateway, metric⟩
    · exact .inr (.inl ⟨first, second, family, gateway, metric⟩)
    · by_cases masked : r.netmask = s.netmask
      · exact .inl (by cases r; cases s; simp_all)
      · have ipv6 : Network.hasColon r.network = true := by
          rw [← Bool.not_eq_false]
          exact mt netmask masked
        exact .inr (.inr ⟨first, second, ipv6, network, masked, gateway, metric⟩)
  · rintro (rfl | same | differ)
    · cases isDefaultRoute r <;> simp
    · exact ⟨.inl ⟨same.first, same.second, same.family⟩, same.gateway, same.metric⟩
    · refine ⟨.inr ⟨differ.first, differ.second, differ.network, fun ipv4 => ?_⟩,
        differ.gateway, differ.metric⟩
      exact absurd (ipv4.symm.trans differ.ipv6) Bool.false_ne_true

/-- For routes whose texts have no space in them, so for all whose texts have no white space, what is
written tells two of them apart, unless they are the same default route in two spellings, or lead to
one IPv6 network and differ in the netmask. So it loses nothing exactly if they do not differ in this
way, and never for IPv4. -/
theorem routes_are_told_apart_iff (unspaced : ∀ text ∈ routeTexts r, Unspaced text)
    (unspaced' : ∀ text ∈ routeTexts s, Unspaced text) :
    (routeLines r = routeLines s ↔ r = s ∨ SameDefault r s ∨ DifferInMask r s) ∧
    ((routeLines r = routeLines s → r = s ∨ SameDefault r s) ↔ ¬ DifferInMask r s) ∧
    (Network.hasColon r.network = false →
      (routeLines r = routeLines s ↔ r = s ∨ SameDefault r s)) := by
  have alike := routeLines_eq_iff_cases unspaced unspaced'
  refine ⟨alike, ⟨fun told differ => ?_, fun other same => ?_⟩, fun ipv4 => ?_⟩
  · rcases told (alike.2 (.inr (.inr differ))) with rfl | same
    · exact differ.netmask rfl
    · exact Bool.false_ne_true (differ.first.symm.trans same.first)
  · exact (or_assoc.2 (alike.1 same)).resolve_right other
  · rw [alike, ← or_assoc, or_iff_left]
    intro differ
    exact Bool.false_ne_true (ipv4.symm.trans differ.ipv6)

/-- Two routes to one IPv6 network, the first with a netmask. -/
def maskedRoutes : List ConfigEntry :=
  [.route { network := "2001:db8::", netmask := some "64", gateway := "fe80::1" },
    .route { network := "2001:db8::", gateway := "fe80::1" }]

/-- The netmask is lost: both routes are written alike. -/
theorem routes_are_told_apart_iff_maskedRoutes :
    ∃ state r s, State.ofEntries maskedRoutes = .ok state ∧ state.routes = [r, s] ∧
      (∀ text ∈ routeTexts r, Unspaced text) ∧ (∀ text ∈ routeTexts s, Unspaced text) ∧
      routeLines r = routeLines s ∧ r.netmask ≠ s.netmask ∧
      isDefaultRoute r = false ∧ isDefaultRoute s = false := by
  refine ⟨_, _, _, rfl, rfl, by decide, by decide, ?_, by decide, by decide, by decide⟩
  rw [(routes_are_told_apart_iff (by decide) (by decide)).1]
  exact .inr (.inr ⟨by decide, by decide, by decide, rfl, by decide, rfl, rfl⟩)

end Interfaces
end TargetNet
