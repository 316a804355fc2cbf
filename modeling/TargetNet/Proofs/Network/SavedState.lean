import Mathlib.Data.List.Basic
import Mathlib.Tactic.Common
import TargetNet.Proofs.Network.ConfigDocument
import TargetNet.Proofs.Network.Source
import TargetNet.Proofs.Network.StateFile

/-!
# Saved states

A state that is saved is the state that is loaded (`saved_state_is_loaded`), so the way from a config
to what is written may lead over a state file.
-/

namespace TargetNet

open Yaml (Value)

/-! ## Evaluating texts -/

/-- The text of a state has the characters that its value is written with. -/
lemma Network.State.text_of_written {state : Network.State} {text : String}
    (written : (Yaml.writeNode {} {} none state.toValue).toOption.map
      (fun pen => (pen.indent 0).written) = some text.toList.reverse) :
    state.text = .ok text := by
  rw [Network.State.text, Yaml.writeDocument]
  cases h : Yaml.writeNode {} {} none state.toValue with
  | error error =>
    rw [h] at written
    cases written
  | ok pen =>
    rw [h] at written
    have last : (pen.indent 0).written = text.toList.reverse := Option.some.inj written
    simp [Yaml.Pen.text, last, Except.mapError, bind, Except.bind, pure, Except.pure]

/-- The characters of a string that is given by its characters. -/
lemma Text.toList_of_eq (text : String) {cs : List Char} (h : text = String.ofList cs) :
    text.toList = cs := by
  rw [h, String.toList_ofList]

/-! ## Small documents -/

open Yaml (plainValue plainValue_eq_string plainValue_eq_int readDocument)

/-- The event of a plain scalar. -/
def Yaml.Event.word (text : String) : Yaml.Event :=
  .scalar text .plain {}

/-- The text of a state with nothing in it. -/
def bareText : String := "version: 1\ninterfaces: []\ndns: {}\n"

/-- What the text of a state with nothing in it consists of. -/
def bareEvents : List Yaml.Event :=
  [.documentStart, .start .mapping {}, .word "version", .word "1", .word "interfaces",
   .start .sequence {}, .finish, .word "dns", .start .mapping {}, .finish, .finish, .documentEnd,
   .streamEnd]

/-- A state document with a tag that keeps marks when one is off. -/
def markedText : String :=
  "interfaces:\n- name: e\n  type: physical\n  params:\n    a: !<!!!!x> b\n"

/-- The state of an interface with one parameter. -/
def stateWith (value : Value) : Network.State where
  interfaces := [{ name := "e", kind := .physical, params := .ofList [("a", value)] }]

/-- What the document consists of. -/
def markedEvents : List Yaml.Event :=
  [.documentStart, .start .mapping {}, .word "interfaces", .start .sequence {}, .start .mapping {},
   .word "name", .word "e", .word "type", .word "physical", .word "params", .start .mapping {},
   .word "a", .scalar "b" .plain { tag := some (.ofString "!!!!x") }, .finish, .finish, .finish,
   .finish, .documentEnd, .streamEnd]

/-! ## A state with something in each part -/

/-- A config with an interface, a bond over it, a name server and a route. -/
def hostConfigText : String :=
  "version: 1
config:
- type: physical
  name: e0
  mac_address: 52:54:00:12:34:56
  mtu: 1400
  params:
    up: [10, true]
  subnets:
  - type: static
    address: 10.0.0.2
    netmask: 255.0.0.0
    gateway: 10.0.0.1
    control: manual
    dns_nameservers: [10.0.0.3]
    dns_search: [lan]
- type: bond
  name: b0
  subnets: []
  bond_interfaces: [e0]
- type: nameserver
  address: [10.0.0.3]
  search: [lan]
- type: route
  network: 10.1.0.0
  netmask: 255.0.0.0
  gateway: 10.0.0.1
  metric: 5
"

/-- What the config consists of. -/
def hostConfigEvents : List Yaml.Event :=
  [.documentStart, .start .mapping {}, .word "version", .word "1", .word "config",
   .start .sequence {}, .start .mapping {}, .word "type", .word "physical", .word "name",
   .word "e0", .word "mac_address", .word "52:54:00:12:34:56", .word "mtu", .word "1400",
   .word "params", .start .mapping {}, .word "up", .start .sequence {}, .word "10", .word "true",
   .finish, .finish, .word "subnets", .start .sequence {}, .start .mapping {}, .word "type",
   .word "static", .word "address", .word "10.0.0.2", .word "netmask", .word "255.0.0.0",
   .word "gateway", .word "10.0.0.1", .word "control", .word "manual", .word "dns_nameservers",
   .start .sequence {}, .word "10.0.0.3", .finish, .word "dns_search", .start .sequence {},
   .word "lan", .finish, .finish, .finish, .finish, .start .mapping {}, .word "type", .word "bond",
   .word "name", .word "b0", .word "subnets", .start .sequence {}, .finish, .word "bond_interfaces",
   .start .sequence {}, .word "e0", .finish, .finish, .start .mapping {}, .word "type",
   .word "nameserver", .word "address", .start .sequence {}, .word "10.0.0.3", .finish,
   .word "search", .start .sequence {}, .word "lan", .finish, .finish, .start .mapping {},
   .word "type", .word "route", .word "network", .word "10.1.0.0", .word "netmask",
   .word "255.0.0.0", .word "gateway", .word "10.0.0.1", .word "metric", .word "5", .finish,
   .finish, .finish, .documentEnd, .streamEnd]

/-- The entries of the config. -/
def hostEntries : List Network.ConfigEntry :=
  [.physical {
      name := "e0", mac := some "52:54:00:12:34:56", mtu := some 1400,
      params := .ofList [("up", .sequence [.int 10, .bool true])],
      subnets := [{
        kind := .static, address := some "10.0.0.2", netmask := some "255.0.0.0",
        gateway := some "10.0.0.1", control := .manual, nameservers := ["10.0.0.3"],
        search := ["lan"] }] },
    .bond { name := "b0" } ["e0"], .nameserver ["10.0.0.3"] ["lan"],
    .route {
      network := "10.1.0.0", netmask := some "255.0.0.0", gateway := "10.0.0.1",
      metric := some 5 }]

/-- The state that the config describes. -/
def bondedHost : Network.State where
  interfaces := [
    { name := "e0", kind := .physical, mac := some "52:54:00:12:34:56", mtu := some 1400,
      params := .ofList [("up", .sequence [.int 10, .bool true]), ("bond-master", .string "b0")],
      subnets := [{
        kind := .static, address := some "10.0.0.2", netmask := some "255.0.0.0",
        gateway := some "10.0.0.1", control := .manual, nameservers := ["10.0.0.3"],
        search := ["lan"] }] },
    { name := "b0", kind := .bond, params := .ofList [("bond-slaves", .string "e0")] }]
  routes := [{
    network := "10.1.0.0", netmask := some "255.0.0.0", gateway := "10.0.0.1", metric := some 5 }]
  dns := ⟨["10.0.0.3"], ["lan"]⟩

/-- The state as it is saved. -/
def hostText : String :=
  "version: 1
interfaces:
- name: e0
  type: physical
  mac_address: 52:54:00:12:34:56
  mtu: 1400
  params:
    bond-master: b0
    up:
    - 10
    - true
  subnets:
  - type: static
    address: 10.0.0.2
    netmask: 255.0.0.0
    gateway: 10.0.0.1
    control: manual
    dns_nameservers:
    - 10.0.0.3
    dns_search:
    - lan
- name: b0
  type: bond
  params:
    bond-slaves: e0
  subnets: []
routes:
- network: 10.1.0.0
  netmask: 255.0.0.0
  gateway: 10.0.0.1
  metric: 5
dns:
  nameservers:
  - 10.0.0.3
  search:
  - lan
"

/-- What the text of the state consists of. -/
def hostEvents : List Yaml.Event :=
  [.documentStart, .start .mapping {}, .word "version", .word "1", .word "interfaces",
   .start .sequence {}, .start .mapping {}, .word "name", .word "e0", .word "type",
   .word "physical", .word "mac_address", .word "52:54:00:12:34:56", .word "mtu", .word "1400",
   .word "params", .start .mapping {}, .word "bond-master", .word "b0", .word "up",
   .start .sequence {}, .word "10", .word "true", .finish, .finish, .word "subnets",
   .start .sequence {}, .start .mapping {}, .word "type", .word "static", .word "address",
   .word "10.0.0.2", .word "netmask", .word "255.0.0.0", .word "gateway", .word "10.0.0.1",
   .word "control", .word "manual", .word "dns_nameservers", .start .sequence {}, .word "10.0.0.3",
   .finish, .word "dns_search", .start .sequence {}, .word "lan", .finish, .finish, .finish,
   .finish, .start .mapping {}, .word "name", .word "b0", .word "type", .word "bond",
   .word "params", .start .mapping {}, .word "bond-slaves", .word "e0", .finish, .word "subnets",
   .start .sequence {}, .finish, .finish, .finish, .word "routes", .start .sequence {},
   .start .mapping {}, .word "network", .word "10.1.0.0", .word "netmask", .word "255.0.0.0",
   .word "gateway", .word "10.0.0.1", .word "metric", .word "5", .finish, .finish, .word "dns",
   .start .mapping {}, .word "nameservers", .start .sequence {}, .word "10.0.0.3", .finish,
   .word "search", .start .sequence {}, .word "lan", .finish, .finish, .finish, .documentEnd,
   .streamEnd]

/-! ## Reading and writing these -/

set_option maxRecDepth 4000 in
/-- What each text consists of, and the tag in one of them. -/
lemma ofString_texts :
    Yaml.Event.ofString bareText = (bareEvents, false) ∧
      Yaml.Event.ofString markedText = (markedEvents, false) ∧
      Yaml.Event.ofString hostConfigText = (hostConfigEvents, false) ∧
      Yaml.Event.ofString hostText = (hostEvents, false) ∧
      (Yaml.Tag.ofString "!!!!x").localName? = some "!!!x" := by
  refine ⟨?_, ?_, ?_, ?_, by decide +kernel⟩
  · rw [Yaml.Event.ofString, Yaml.Tokens.ofString, Text.toList_of_eq bareText rfl]
    decide +kernel
  · rw [Yaml.Event.ofString, Yaml.Tokens.ofString, Text.toList_of_eq markedText rfl]
    decide +kernel
  · rw [Yaml.Event.ofString, Yaml.Tokens.ofString, Text.toList_of_eq hostConfigText rfl]
    decide +kernel
  · rw [Yaml.Event.ofString, Yaml.Tokens.ofString, Text.toList_of_eq hostText rfl]
    decide +kernel

/-- What the scalars of the texts stand for. -/
lemma plainValue_words :
    (∀ text ∈ ["10.0.0.1", "10.0.0.2", "10.0.0.3", "10.1.0.0", "255.0.0.0", "52:54:00:12:34:56",
        "a", "address", "b", "b0", "bond", "bond-master", "bond-slaves", "bond_interfaces",
        "config", "control", "dns", "dns_nameservers", "dns_search", "e", "e0", "gateway",
        "interfaces", "lan", "mac_address", "manual", "metric", "mtu", "name", "nameserver",
        "nameservers", "netmask", "network", "params", "physical", "route", "routes", "search",
        "static", "subnets", "type", "up", "version"],
      plainValue text = .ok (.string text)) ∧
    plainValue "5" = .ok (.int 5) ∧ plainValue "10" = .ok (.int 10) ∧
    plainValue "1400" = .ok (.int 1400) ∧ plainValue "true" = .ok (.bool true) := by
  refine ⟨?_, ?_, ?_, ?_, by rfl⟩
  · intro text mem
    apply plainValue_eq_string
    revert text mem
    decide +kernel
  all_goals
    exact plainValue_eq_int (by rfl) (by rfl) (by decide)

set_option maxRecDepth 4000 in
/-- What the states are written as. -/
lemma text_states :
    ({} : Network.State).text = .ok bareText ∧ bondedHost.text = .ok hostText := by
  refine ⟨Network.State.text_of_written ?_, Network.State.text_of_written ?_⟩
  · rw [Text.toList_of_eq bareText rfl]
    decide +kernel
  · rw [Text.toList_of_eq hostText rfl]
    decide +kernel

/-- What is saved of the state with nothing in it reads back. -/
lemma textReadsBack_bare : ({} : Network.State).TextReadsBack := by
  obtain ⟨words, -⟩ := plainValue_words
  simp only [List.forall_mem_cons] at words
  have read : readDocument bareText = .ok ({} : Network.State).toValue := by
    rw [readDocument, ofString_texts.1]
    simp [bareEvents, Yaml.Event.word, Yaml.DocumentTree.build, Yaml.NodeBuilder.number,
      Yaml.NodeBuilder.add, Yaml.NodeBuilder.finish, Yaml.DocumentReader.node,
      Yaml.DocumentReader.content, Yaml.DocumentReader.mapping, Yaml.DocumentReader.sequence,
      Yaml.scalarValue, Yaml.untaggedValue, words, plainValue_one, bind, Except.bind, pure,
      Except.pure, Value.hasKey, Value.same, Yaml.depthLimit, Network.State.toValue,
      Network.field, Network.Dns.toValue, Network.textListField, Network.supportedVersion]
  intro text h
  cases text_states.1.symm.trans h
  exact ⟨_, read, rfl⟩

/-- Saving the state with nothing in it needs no more than writing its text. -/
lemma saveState_bare {path : Path} {fs : FileSystem}
    (written : (writeFile path bareText.toUTF8 configMode fs).result = .ok ()) :
    (Network.saveState {} path fs).result = .ok () := by
  rw [Network.saveState_of_text text_states.1]
  exact written

/-- The document is read with one of the marks off. -/
lemma parse_markedText :
    Network.State.parse markedText = .ok (stateWith (.tagged "!!x" (.string "b"))) := by
  obtain ⟨words, -⟩ := plainValue_words
  simp only [List.forall_mem_cons] at words
  have tag : (Yaml.Tag.ofString "!!!!x").localName? = some "!!!x" := ofString_texts.2.2.2.2
  have read : readDocument markedText = .ok (.mapping [(.string "interfaces",
      .sequence [.mapping [(.string "name", .string "e"), (.string "type", .string "physical"),
        (.string "params", .mapping [(.string "a", .tagged "!!!x" (.string "b"))])]])]) := by
    rw [readDocument, ofString_texts.2.1]
    simp [markedEvents, Yaml.Event.word, Yaml.DocumentTree.build, Yaml.NodeBuilder.number,
      Yaml.NodeBuilder.add, Yaml.NodeBuilder.finish, Yaml.DocumentReader.node,
      Yaml.DocumentReader.content, Yaml.DocumentReader.mapping, Yaml.DocumentReader.sequence,
      Yaml.scalarValue, Yaml.untaggedValue, words, tag, bind, Except.bind, pure, Except.pure,
      Value.hasKey, Value.same, Yaml.depthLimit]
  have bare : Value.lookup? Network.stateKey [(.string "interfaces",
      .sequence [.mapping [(.string "name", .string "e"), (.string "type", .string "physical"),
        (.string "params", .mapping [(.string "a", .tagged "!!!x" (.string "b"))])]])] = none := by
    simp [Value.lookup?, Value.same, Network.stateKey]
  unfold Network.State.parse
  rw [read]
  change Network.State.ofDocument _ = _
  rw [Network.State.ofDocument, Network.State.stateOf_mapping bare]
  rfl

/-- A place with nothing but the config file. -/
def hostPlace : FileSystem where
  entries := [(.ofStrings ["config"], .file hostConfigText.toUTF8 0o644)]
  current := []

/-- Where the config file and a file beside it are. -/
lemma places_hostPlace :
    hostPlace.resolve (.ofString "config") = .ok (.ofStrings ["config"]) ∧
      hostPlace.locate (.ofString "state") = .ok ([], some (Text.Utf8.encode "state"), false) ∧
      (hostPlace.erase [Text.Utf8.encode "state"]).locate (.ofString "state") =
        .ok ([], some (Text.Utf8.encode "state"), false) ∧
      (Text.Utf8.encode "state").length ≤ Path.maxName ∧
      hostPlace.get? [Text.Utf8.encode "state"] ≠ some .directory := by
  decide +kernel

/-- The config file holds the config. -/
lemma readText_hostPlace : hostPlace.readText (.ofString "config") = .ok hostConfigText := by
  have file : hostPlace.get? (.ofStrings ["config"]) =
      some (.file hostConfigText.toUTF8 0o644) := by
    simp [FileSystem.get?, hostPlace, Location.ofStrings]
  exact FileSystem.readText_eq_ok_iff.2 (FileSystem.read_eq_ok_iff.2
    ⟨_, FileSystem.find_eq_ok_iff.2 ⟨_, places_hostPlace.1, file⟩, rfl⟩)

/-- A file beside the config does not cut off its path. -/
lemma not_cutsOff_hostPlace : ¬ Network.CutsOff hostPlace (.ofString "state") := by
  obtain ⟨-, located, still, -⟩ := places_hostPlace
  obtain ⟨parent, hp, directory⟩ := FileSystem.locate_parent located
  have made := FileSystem.makeDirectories_of_directory directory
  rintro ⟨_, h, directory', name, slash, found, cut⟩
  cases hp.symm.trans h
  rw [made] at found cut
  cases located.symm.trans found
  exact cut still

/-- There is nothing in the way of a file beside the config. -/
lemma writeFile_hostPlace :
    (writeFile (.ofString "state") hostText.toUTF8 configMode hostPlace).result = .ok () := by
  obtain ⟨-, located, -, short, free⟩ := places_hostPlace
  exact writeFile_of_locate rfl located short free

set_option maxRecDepth 4000 in
/-- What is saved of the state is read back. -/
lemma readDocument_hostText :
    readDocument hostText = .ok bondedHost.toValue := by
  obtain ⟨words, five, ten, mtu, truth⟩ := plainValue_words
  simp only [List.forall_mem_cons] at words
  rw [readDocument, ofString_texts.2.2.2.1]
  simp [hostEvents, Yaml.Event.word, Yaml.DocumentTree.build, Yaml.NodeBuilder.number,
    Yaml.NodeBuilder.add, Yaml.NodeBuilder.finish, Yaml.DocumentReader.node,
    Yaml.DocumentReader.content, Yaml.DocumentReader.mapping, Yaml.DocumentReader.sequence,
    Yaml.scalarValue, Yaml.untaggedValue, words, plainValue_one, five, ten, mtu, truth, bind,
    Except.bind, pure, Except.pure, Value.hasKey, Value.same, Yaml.depthLimit]
  rfl

set_option maxRecDepth 4000 in
/-- The config is the document of its entries. -/
lemma readDocument_hostConfigText :
    readDocument hostConfigText =
      .ok (Network.asConfig (hostEntries.map Network.ConfigEntry.toValue)) := by
  obtain ⟨words, five, ten, mtu, truth⟩ := plainValue_words
  simp only [List.forall_mem_cons] at words
  rw [readDocument, ofString_texts.2.2.1]
  simp [hostConfigEvents, Yaml.Event.word, Yaml.DocumentTree.build, Yaml.NodeBuilder.number,
    Yaml.NodeBuilder.add, Yaml.NodeBuilder.finish, Yaml.DocumentReader.node,
    Yaml.DocumentReader.content, Yaml.DocumentReader.mapping, Yaml.DocumentReader.sequence,
    Yaml.scalarValue, Yaml.untaggedValue, words, plainValue_one, five, ten, mtu, truth, bind,
    Except.bind, pure, Except.pure, Value.hasKey, Value.same, Yaml.depthLimit]
  rfl

/-- The config is accepted, and its state is the host. -/
lemma parseConfig_hostConfigText :
    Network.State.parseConfig hostConfigText = .ok bondedHost := by
  have plain : ∀ entry ∈ hostEntries, entry.HasPlainParams := by
    refine List.forall_mem_cons.2 ⟨⟨?_, ?_⟩, List.forall_mem_cons.2 ⟨⟨?_, ?_⟩,
      List.forall_mem_cons.2 ⟨trivial, List.forall_mem_singleton.2 trivial⟩⟩⟩
    · exact List.forall_mem_singleton.2 rfl
    · exact List.forall_mem_singleton.2 rfl
    · exact List.forall_mem_nil _
    · exact List.forall_mem_nil _
  have parsed := Network.parseEntries_of_document plain readDocument_hostConfigText
  have made : Network.State.ofEntries hostEntries = .ok bondedHost := by rfl
  exact Yaml.bind_eq_ok_iff.2 ⟨_, parsed, made⟩

/-- The text of the host reads back. -/
lemma textReadsBack_bondedHost : bondedHost.TextReadsBack := by
  intro text h
  cases text_states.2.symm.trans h
  exact ⟨_, readDocument_hostText, rfl⟩

/-- The text that is saved for the host is accepted as a state. -/
lemma parse_hostText : Network.State.parse hostText = .ok bondedHost := by
  obtain ⟨valid, plain⟩ := Network.State.parseConfig_spec parseConfig_hostConfigText
  have readable : bondedHost.IsReadable :=
    fun interface mem => Network.Params.isReadable_of_plain (plain interface mem)
  have parsed := Network.State.parse_text readable valid textReadsBack_bondedHost text_states.2
  rwa [Network.State.unmark_of_plain plain] at parsed

/-- The host has no tags to settle. -/
lemma isSettled_bondedHost : bondedHost.IsSettled := by
  refine List.forall_mem_cons.2 ⟨List.forall_mem_cons.2 ⟨?_, List.forall_mem_singleton.2 ?_⟩,
    List.forall_mem_singleton.2 (List.forall_mem_singleton.2 ?_)⟩ <;> rfl

/-! ## Saving and loading -/

/-- A state that is saved is the state that is loaded, if the text of a state reads back, its file may
be read and the path is not cut off by this file; if it is, nothing is loaded. From a state document
the state comes back the same, its tags being settled, and from a config document it comes back equal.
So the two ways from a config file to what is written, at once or by a state file in between, come to
the same. -/
theorem saved_state_is_loaded [Circumstances] (fs : FileSystem) (path : Path) :
    (Network.CutsOff fs path → ∀ state, (Network.saveState state path fs).result = .ok () →
      ∃ error, (Network.loadState path (Network.saveState state path fs).files).result =
        .error error) ∧
    (¬ Network.CutsOff fs path → Circumstances.reading path configMode = none →
      (∀ text state, Network.State.parse text = .ok state → state.IsSettled → state.TextReadsBack →
        (Network.saveState state path fs).result = .ok () →
        ∃ loaded, (Network.loadState path (Network.saveState state path fs).files).result =
          .ok loaded ∧ loaded.same state) ∧
      (∀ text state, Network.State.parseConfig text = .ok state → state.TextReadsBack →
        (Network.saveState state path fs).result = .ok () →
        (Network.loadState path (Network.saveState state path fs).files).result = .ok state) ∧
      ∀ configFile output, (netState configFile path fs).result = .ok (.success output) →
        ∃ state, (Network.resolve none (some configFile) fs).result = .ok state ∧
          (state.TextReadsBack → ∀ other, ∃ loaded,
            (Network.resolve (some path) other (netState configFile path fs).files).result =
              .ok loaded ∧ loaded = state ∧
            (∀ postupAlias,
              Interfaces.render postupAlias loaded = Interfaces.render postupAlias state) ∧
            UdevRules.render loaded = UdevRules.render state)) := by
  refine ⟨fun cut state saved => Network.loadState_of_cutsOff cut saved, fun straight allowed => ?_⟩
  -- a config lets no tags into parameters, so there are no marks to lose
  have fromConfig {text : String} {state : Network.State}
      (accepted : Network.State.parseConfig text = .ok state) (reads : state.TextReadsBack)
      (saved : (Network.saveState state path fs).result = .ok ()) :
      (Network.loadState path (Network.saveState state path fs).files).result = .ok state := by
    obtain ⟨valid, plain⟩ := Network.State.parseConfig_spec accepted
    have readable : state.IsReadable := by
      intro interface mem e inside
      obtain ⟨unmarked, distinct⟩ := plain interface mem e inside
      rw [unmarked]
      exact distinct
    rw [Network.loadState_saveState readable valid reads allowed straight saved,
      Network.State.unmark_of_plain plain]
  refine ⟨?_, fun text state accepted reads saved => fromConfig accepted reads saved, ?_⟩
  · intro text state accepted settled reads saved
    obtain ⟨valid, distinct⟩ := Network.State.parse_spec accepted
    have readable : state.IsReadable := by
      intro interface mem e inside
      rw [Value.hasDistinctKeys_unmark (settled interface mem e inside)]
      exact distinct interface mem e inside
    exact ⟨state.unmark, Network.loadState_saveState readable valid reads allowed straight saved,
      Network.State.unmark_same settled⟩
  · intro configFile output done
    obtain ⟨state, loaded, saved⟩ := exists_of_netState done
    have files := (netState_of_saved loaded saved).2
    refine ⟨state, loaded, fun reads other => ⟨state, ?_, rfl, fun _ => rfl, rfl⟩⟩
    obtain ⟨text, -, accepted⟩ := Network.loadConfig_eq_ok_iff.1 loaded
    rw [files]
    cases other with
    | none => exact fromConfig accepted reads saved
    | some other => exact fromConfig accepted reads saved

/-- A state with something in each part is saved beside its config, and comes back. -/
theorem saved_state_is_loaded_bondedHost :
    ¬ Network.CutsOff hostPlace (.ofString "state") ∧
      Network.State.parse hostText = .ok bondedHost ∧ bondedHost.IsSettled ∧
      Network.State.parseConfig hostConfigText = .ok bondedHost ∧ bondedHost.TextReadsBack ∧
      (netState (.ofString "config") (.ofString "state") hostPlace).result =
        .ok (.success (stateWritten bondedHost (.ofString "state"))) ∧
      (Network.resolve (some (.ofString "state")) none (netState (.ofString "config")
        (.ofString "state") hostPlace).files).result = .ok bondedHost ∧
      (Network.loadState (.ofString "state") (Network.saveState bondedHost (.ofString "state")
        hostPlace).files).result = .ok bondedHost ∧
      ∃ loaded, (Network.loadState (.ofString "state") (Network.saveState bondedHost
        (.ofString "state") hostPlace).files).result = .ok loaded ∧
          loaded.same bondedHost := by
  have saved :
      (Network.saveState bondedHost (.ofString "state") hostPlace).result =
        .ok () := by
    rw [Network.saveState_of_text text_states.2]
    exact writeFile_hostPlace
  have loaded : (Network.loadConfig (.ofString "config") hostPlace).result =
      .ok bondedHost :=
    Network.loadConfig_eq_ok_iff.2
      ⟨hostConfigText, readText_hostPlace, parseConfig_hostConfigText⟩
  have done := (netState_of_saved loaded saved).1
  have straight := not_cutsOff_hostPlace
  obtain ⟨-, both⟩ := saved_state_is_loaded hostPlace (.ofString "state")
  obtain ⟨fromState, fromConfig, pipeline⟩ := both straight rfl
  obtain ⟨state, resolved, back⟩ := pipeline _ _ done
  cases loaded.symm.trans resolved
  obtain ⟨_, again, rfl, -⟩ := back textReadsBack_bondedHost none
  exact ⟨straight, parse_hostText, isSettled_bondedHost, parseConfig_hostConfigText,
    textReadsBack_bondedHost, done, again,
    fromConfig _ _ parseConfig_hostConfigText textReadsBack_bondedHost saved,
    fromState _ _ parse_hostText isSettled_bondedHost textReadsBack_bondedHost saved⟩

/-- A state is lost if it is saved under a path that leads through the link that it names; and what
is read of a state with marks to spare is not the same state, even if its text reads back. -/
theorem saved_state_is_lost :
    (Network.State.parse versionText = .ok {} ∧ Network.State.TextReadsBack {} ∧
      (Network.saveState {} roundPath linkedPlace).result = .ok () ∧
      ∀ loaded, (Network.loadState roundPath
        (Network.saveState {} roundPath linkedPlace).files).result ≠ .ok loaded) ∧
    Network.State.parse markedText = .ok (stateWith (.tagged "!!x" (.string "b"))) ∧
      Network.State.ofDocument (stateWith (.tagged "!!x" (.string "b"))).toValue =
        .ok (stateWith (.tagged "!x" (.string "b"))) ∧
      (stateWith (.tagged "!x" (.string "b"))).same
        (stateWith (.tagged "!!x" (.string "b"))) = false := by
  have located : linkedPlace.locate roundPath = .ok ([], some (Text.Utf8.encode "l"), false) := by
    decide +kernel
  have saved : (Network.saveState {} roundPath linkedPlace).result = .ok () :=
    saveState_bare (writeFile_of_locate rfl located (by decide +kernel) (by decide +kernel))
  have gone : (linkedPlace.erase [Text.Utf8.encode "l"]).locate roundPath ≠
      .ok ([], some (Text.Utf8.encode "l"), false) := by
    decide +kernel
  have cut : Network.CutsOff linkedPlace roundPath := by
    obtain ⟨parent, hp, directory⟩ := FileSystem.locate_parent located
    have made := FileSystem.makeDirectories_of_directory directory
    refine ⟨parent, hp, ?_⟩
    rw [made]
    exact ⟨_, _, _, located, gone⟩
  refine ⟨⟨parse_versionText, textReadsBack_bare, saved, ?_⟩, parse_markedText, ?_, ?_⟩
  · intro loaded h
    obtain ⟨error, failed⟩ := Network.loadState_of_cutsOff cut saved
    cases failed.symm.trans h
  · have readable : (stateWith (.tagged "!!x" (.string "b"))).IsReadable :=
      List.forall_mem_singleton.2 (List.forall_mem_singleton.2 rfl)
    exact Network.State.ofDocument_of_unmark readable rfl rfl
  · have entries (value : Value) : (Network.Params.ofList [("a", value)]).entries = [("a", value)] :=
      rfl
    have marks : Yaml.unmarked "!x" ≠ Yaml.unmarked "!!x" := by decide +kernel
    simp [stateWith, Network.State.same, Network.sameInterfaces, Network.Interface.same,
      Network.Params.same, entries, Value.sameItems, Value.same, marks]

end TargetNet
