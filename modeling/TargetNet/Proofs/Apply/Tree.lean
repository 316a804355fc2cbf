import Mathlib.Data.List.Forall2
import Mathlib.Tactic.Common
import TargetNet.Proofs.Apply.Phases
import TargetNet.Proofs.Network.SavedState

/-!
# What a run leaves

A run that ends well over a target without links leaves exactly the documented tree: the rendered
files, the hooks, the artifacts as their outcomes say, the directories of what was written, and all
else as it was (`apply_leaves_tree`). This holds in all circumstances in which the system allows the
annotation to be written.
-/

namespace TargetNet

/-- A file of a target has this text and these permissions, at its place and under its path. -/
structure HasText (fs : FileSystem) (target : Path) (base : Location) (path : Path)
    (text : String) (mode : Nat) : Prop where
  there : fs.get? (base ++ path.named) = some (.file text.toUTF8 mode)
  found : fs.find (target.join path) = .ok (.file text.toUTF8 mode)

/-! ## The documented tree -/

/-- The script that notes the MTU of a device and of IPv6 on it, as it is documented. -/
def documentedNoteScript : String :=
  String.join [
    "#!/bin/sh -x\n",
    "# injected by netseed installer\n",
    "\n",
    "[ \"$IFACE\" != \"lo\" ] || exit 0\n",
    "\n",
    "# Trigger only if MTU configured\n",
    "[ -n \"$IF_MTU\" ] || exit 0\n",
    "\n",
    "CUR_DEV_MTU=$(/bin/cat /sys/class/net/$IFACE/mtu ||:)\n",
    "CUR_IPV6_MTU=$(sysctl -n net.ipv6.conf.$IFACE.mtu ||:)\n",
    "[ -n \"$CUR_DEV_MTU\" ] && echo $CUR_DEV_MTU > /run/network/$\x7bIFACE\x7d_dev.mtu\n",
    "[ -n \"$CUR_IPV6_MTU\" ] && echo $CUR_IPV6_MTU > /run/network/$\x7bIFACE\x7d_ipv6.mtu\n",
    "exit 0\n"]

/-- The script that repairs the MTU of a device and of IPv6 on it, as it is documented. -/
def documentedRepairScript : String :=
  String.join [
    "#!/bin/sh -x\n",
    "# injected by netseed installer\n",
    "\n",
    "[ \"$IFACE\" != \"lo\" ] || exit 0\n",
    "\n",
    "# Trigger only if MTU configured\n",
    "[ -n \"$IF_MTU\" ] || exit 0\n",
    "\n",
    "PRE_DEV_MTU=$(cat /run/network/$\x7bIFACE\x7d_dev.mtu)\n",
    "CUR_DEV_MTU=$(/bin/cat /sys/class/net/$IFACE/mtu)\n",
    "PRE_IPV6_MTU=$(cat /run/network/$\x7bIFACE\x7d_ipv6.mtu)\n",
    "CUR_IPV6_MTU=$(sysctl -n net.ipv6.conf.$IFACE.mtu)\n",
    "\n",
    "if [ \"$ADDRFAM\" = \"inet6\" ]; then\n",
    "  # We need to check the underlying interface MTU and\n",
    "  # raise it if the IPV6 mtu is larger\n",
    "  if [ $CUR_DEV_MTU -lt $IF_MTU ]; then\n",
    "      /bin/ip link set $IFACE mtu $IF_MTU\n",
    "  fi\n",
    "  /sbin/sysctl -q -e -w net.ipv6.conf.$IFACE.mtu=$IF_MTU\n",
    "\n",
    "elif [ \"$ADDRFAM\" = \"inet\" ]; then\n",
    "  # handle the clobber case where inet mtu changes v6 mtu.\n",
    "  # ifupdown will already have set dev mtu, so lower mtu\n",
    "  # if needed.  If v6 mtu was larger, it gets clamped down\n",
    "  # to the dev MTU value.\n",
    "  if [ $PRE_IPV6_MTU -lt $CUR_IPV6_MTU ]; then\n",
    "    /sbin/sysctl -q -e -w net.ipv6.conf.$IFACE.mtu=$PRE_IPV6_MTU\n",
    "  fi\n",
    "fi\n",
    "exit 0\n"]

/-- The shipped configuration that brings up `eth0`: a run removes it. -/
def documentedEth0 : Legacy.Artifact where
  path := .ofString "etc/network/interfaces.d/eth0.cfg"
  expected := ["auto eth0", "iface eth0 inet dhcp"]
  policy := .delete
  consequence := "Dynamic networking config may not apply."

/-- The shipped privacy settings of IPv6: a run leaves comments in their place. -/
def documentedPrivacy : Legacy.Artifact where
  path := .ofString "etc/sysctl.d/10-ipv6-privacy.conf"
  expected := ["net.ipv6.conf.all.use_tempaddr = 2", "net.ipv6.conf.default.use_tempaddr = 2"]
  policy := .annotate <|
    "# IPv6 Privacy Extensions (RFC 4941)\n" ++
    "# Disabled by netseed\n" ++
    "# net.ipv6.conf.all.use_tempaddr = 2\n" ++
    "# net.ipv6.conf.default.use_tempaddr = 2\n"
  consequence := "Disabling IPv6 privacy extensions config may not apply."

/-- The files of a target that a run writes, as they are documented. -/
def documentedFiles : List Path :=
  [.ofString "etc/network/interfaces", .ofString "etc/udev/rules.d/70-persistent-net.rules",
    .ofString "etc/cloud/cloud.cfg.d/netseed-disable-cloudinit-networking.cfg",
    .ofString "etc/network/if-pre-up.d/mtuipv6", .ofString "etc/network/if-up.d/mtuipv6"]

/-- The files of a target that a run may remove, as they are documented. -/
def documentedRemovals : List Path :=
  [.ofString "etc/network/interfaces.d/eth0.cfg", .ofString "etc/sysctl.d/10-ipv6-privacy.conf"]

/-- The hooks are the documented ones. -/
lemma hooks_eq :
    Hook.all =
      [⟨.ofString "etc/network/if-pre-up.d/mtuipv6", documentedNoteScript, 0o755⟩,
        ⟨.ofString "etc/network/if-up.d/mtuipv6", documentedRepairScript, 0o755⟩] :=
  rfl

/-- The known artifacts are the documented ones. -/
lemma known_eq : Legacy.known = [documentedEth0, documentedPrivacy] :=
  rfl

/-- The files that a run writes are the documented ones. -/
lemma writtenFiles_eq : writtenFiles = documentedFiles :=
  rfl

/-- The files that a run touches are the documented ones. -/
lemma mem_targetFiles_iff (path : Path) :
    path ∈ targetFiles ↔ path ∈ documentedFiles ++ documentedRemovals := by
  have one : ∀ path ∈ targetFiles, path ∈ documentedFiles ++ documentedRemovals := by decide +kernel
  have other : ∀ path ∈ documentedFiles ++ documentedRemovals, path ∈ targetFiles := by
    decide +kernel
  exact ⟨one path, other path⟩

namespace Request

variable [Circumstances]

/-- The tree that a run leaves: `fs` are the files before it, `after` the files after it. -/
structure LeavesTree (request : Request) (state : Network.State) (applied : Applied)
    (base : Location) (fs after : FileSystem) : Prop where
  interfaces : HasText after request.target base (.ofString "etc/network/interfaces")
    (Interfaces.render applied.postupAlias state) 0o644
  rules : HasText after request.target base (.ofString "etc/udev/rules.d/70-persistent-net.rules")
    (UdevRules.render state) 0o644
  switch : HasText after request.target base
    (.ofString "etc/cloud/cloud.cfg.d/netseed-disable-cloudinit-networking.cfg")
    "network: \x7bconfig: disabled\x7d\n" 0o644
  hooks : applied.hooks =
    [request.target.join (.ofString "etc/network/if-pre-up.d/mtuipv6"),
      request.target.join (.ofString "etc/network/if-up.d/mtuipv6")]
  noteScript : HasText after request.target base (.ofString "etc/network/if-pre-up.d/mtuipv6")
    documentedNoteScript 0o755
  repairScript : HasText after request.target base (.ofString "etc/network/if-up.d/mtuipv6")
    documentedRepairScript 0o755
  legacy : ∃ eth0 privacy,
    applied.legacy = [(.ofString "etc/network/interfaces.d/eth0.cfg", eth0),
      (.ofString "etc/sysctl.d/10-ipv6-privacy.conf", privacy)] ∧
    documentedEth0.Settles request.target (fs.get? (documentedEth0.place base)) eth0
      (after.get? (documentedEth0.place base)) ∧
    documentedPrivacy.Settles request.target (fs.get? (documentedPrivacy.place base)) privacy
      (after.get? (documentedPrivacy.place base))
  /-- The directories of what was written are there. -/
  directories : ∀ path ∈ documentedFiles, ∀ way, way <+: path.named → way ≠ path.named →
    after.get? (base ++ way) = some .directory
  /-- Everything else is as it was, but for directories that were missing. -/
  others : ∀ l, l ∉ (documentedFiles ++ documentedRemovals).map (base ++ ·.named) →
    after.get? l = fs.get? l ∨
      fs.get? l = none ∧ after.get? l = some .directory ∧
        ∃ path ∈ documentedFiles, l <+: base ++ path.named

variable {request : Request} {probe : Package.Probe} {fs : FileSystem} {base : Location}

/-- A settled target is as documented. -/
lemma Settled.leavesTree {state : Network.State} {applied : Applied} {after : FileSystem}
    (settled : request.Settled state applied base fs after) :
    request.LeavesTree state applied base fs after := by
  obtain ⟨g, changes, rendered, installed, hooks, legacy, -⟩ := settled
  have holds {path : Path} {text : String} {mode : Nat} (plain : path.IsPlain)
      (there : TargetWrite.IsInPlace request.target base after ⟨path, text.toUTF8, mode⟩) :
      HasText after request.target base path text (keptMode mode) :=
    ⟨there.file, there.find g plain⟩
  have written (path : Path) (mem : path ∈ writtenFiles) :
      ∃ entry, after.get? (base ++ path.named) = some entry := by
    rcases List.mem_append.1 mem with mem | mem
    · obtain ⟨write, hw, rfl⟩ : ∃ write ∈ Renderer.writes state applied.postupAlias,
        write.path = path := List.mem_map.1 mem
      exact ⟨_, (rendered write hw).file⟩
    · obtain ⟨hook, hh, rfl⟩ := List.mem_map.1 mem
      exact ⟨_, (installed _ (List.mem_map_of_mem hh)).file⟩
  have scripts (hook : Hook) (mem : hook ∈ Hook.all) :
      HasText after request.target base hook.path hook.content (keptMode hook.mode) :=
    holds (plain_of_hooks hook mem) (installed _ (List.mem_map_of_mem mem))
  rw [hooks_eq] at scripts hooks
  obtain ⟨note, scripts⟩ := List.forall_mem_cons.1 scripts
  obtain ⟨repair, -⟩ := List.forall_mem_cons.1 scripts
  obtain ⟨first, rest⟩ := List.forall_mem_cons.1 rendered
  obtain ⟨second, rest⟩ := List.forall_mem_cons.1 rest
  obtain ⟨third, -⟩ := List.forall_mem_cons.1 rest
  refine ⟨holds ?_ first, holds ?_ second, holds ?_ third, hooks, note, repair, ?_, ?_, ?_⟩
  · exact targetFiles_isPlain _ (by simp [targetFiles])
  · exact targetFiles_isPlain _ (by simp [targetFiles])
  · exact targetFiles_isPlain _ (by simp [targetFiles])
  · rw [known_eq] at legacy
    obtain ⟨_, _, ⟨eth0, rfl, settles, -⟩, others, entries⟩ := List.forall₂_cons_left_iff.1 legacy
    obtain ⟨_, _, ⟨privacy, rfl, settles', -⟩, none, rfl⟩ := List.forall₂_cons_left_iff.1 others
    rw [List.forall₂_nil_left_iff.1 none] at entries
    exact ⟨eth0, privacy, entries, settles, settles'⟩
  · rw [← writtenFiles_eq]
    rintro path mem way ⟨more, e⟩ ne
    obtain ⟨entry, there⟩ := written path mem
    have some : more ≠ [] := by
      rintro rfl
      exact ne ((List.append_nil way).symm.trans e)
    rw [← e, ← List.append_assoc] at there
    exact g.tree.directory some there
  · intro l other
    cases changes.each l with
    | same e => exact .inl e
    | replaced mem _ _ =>
      obtain ⟨path, hp, rfl⟩ := List.mem_map.1 mem
      exact absurd (List.mem_map_of_mem ((mem_targetFiles_iff path).1 hp)) other
    | made mem before missing directory =>
      obtain ⟨path, hp, rfl⟩ := List.mem_map.1 mem
      exact .inr ⟨missing, directory, path, writtenFiles_eq ▸ hp, before⟩

/-- A run that ends well over a target without links leaves exactly the documented tree for the state
that it has found. Where the system refuses to read or to remove an artifact, the outcome says so. An
annotation that it refuses to write would not show in an outcome, and so it has to allow this. -/
theorem apply_leaves_tree {applied : Applied} (tree : fs.IsTree)
    (root : fs.resolve request.target = .ok base) (noLinks : fs.LinkFree base)
    (quiet : request.DecidesQuietly probe)
    (annotating : Circumstances.writing
      (request.target.join (.ofString "etc/sysctl.d/10-ipv6-privacy.conf")) = .none)
    (done : (request.apply .standard probe fs).result = .ok applied) :
    ∃ state, request.state fs = .ok state ∧
      request.LeavesTree state applied base fs (request.apply .standard probe fs).files := by
  obtain ⟨state, found, settled⟩ := settled_of_apply tree root noLinks quiet annotating done
  exact ⟨state, found, settled.leavesTree⟩

end Request

/-! ## A small run -/

/-- The lines that bring up `eth0` as they are shipped. -/
def shippedEth0 : String :=
  "auto eth0\niface eth0 inet dhcp\n"

/-- A target with its directories and a file that is shipped, beside the config of a host. -/
def freshTarget : FileSystem where
  entries :=
    [(.ofStrings ["config"], .file hostConfigText.toUTF8 0o644),
      (.ofStrings ["target"], .directory), (.ofStrings ["target", "etc"], .directory),
      (.ofStrings ["target", "etc", "network"], .directory),
      (.ofStrings ["target", "etc", "network", "if-pre-up.d"], .directory),
      (.ofStrings ["target", "etc", "network", "if-up.d"], .directory),
      (.ofStrings ["target", "etc", "network", "interfaces.d"], .directory),
      (.ofStrings ["target", "etc", "network", "interfaces.d", "eth0.cfg"],
        .file shippedEth0.toUTF8 0o644),
      (.ofStrings ["target", "etc", "udev"], .directory),
      (.ofStrings ["target", "etc", "udev", "rules.d"], .directory),
      (.ofStrings ["target", "etc", "cloud"], .directory),
      (.ofStrings ["target", "etc", "cloud", "cloud.cfg.d"], .directory)]
  current := []

/-- A request to render the config into the target. -/
def freshRequest (postupAlias : Option Bool) : Request :=
  { target := .ofString "target", configFile := some (.ofString "config"), postupAlias }

lemma freshTarget_isTree : freshTarget.IsTree :=
  FileSystem.isTree_of_entries (by decide +kernel)

lemma freshTarget_linkFree : freshTarget.LinkFree (.ofStrings ["target"]) :=
  FileSystem.linkFree_of_entries (by decide +kernel)

lemma resolve_freshTarget :
    freshTarget.resolve (.ofString "target") = .ok (.ofStrings ["target"]) := by
  decide +kernel

/-- The state is that of the host. -/
lemma state_freshRequest (postupAlias : Option Bool) :
    (freshRequest postupAlias).state freshTarget = .ok bondedHost := by
  have check : (freshRequest postupAlias).check freshTarget = .ok () := by
    change (freshRequest none).check freshTarget = .ok ()
    decide +kernel
  have located : freshTarget.resolve (.ofString "config") = .ok (.ofStrings ["config"]) := by
    decide +kernel
  have file : freshTarget.get? (.ofStrings ["config"]) =
      some (.file hostConfigText.toUTF8 0o644) := by
    simp [FileSystem.get?, freshTarget, Location.ofStrings]
  have text : freshTarget.readText (.ofString "config") = .ok hostConfigText :=
    FileSystem.readText_eq_ok_iff.2 (FileSystem.read_eq_ok_iff.2
      ⟨_, FileSystem.find_eq_ok_iff.2 ⟨_, located, file⟩, rfl⟩)
  have loaded : (Network.resolve none (some (.ofString "config")) freshTarget).result =
      .ok bondedHost := by
    rw [Network.resolve]
    exact Network.loadConfig_eq_ok_iff.2 ⟨hostConfigText, text, parseConfig_hostConfigText⟩
  exact Yaml.bind_eq_ok_iff.2 ⟨(), check, loaded⟩

/-- Every file of a run can be put in place. -/
lemma freshTarget_isReady :
    ∀ path ∈ writtenFiles, freshTarget.IsReady (.ofString "target") (.ofStrings ["target"]) path := by
  have check : ∀ path ∈ writtenFiles, ((Path.ofString "target").join path).check = .ok () := by
    decide +kernel
  have directory : ∀ path ∈ writtenFiles,
      freshTarget.get? (Location.ofStrings ["target"] ++ path.named).dropLast =
        some .directory := by
    decide +kernel
  have free : ∀ path ∈ writtenFiles,
      freshTarget.get? (Location.ofStrings ["target"] ++ path.named) ≠ some .directory := by
    decide +kernel
  exact fun path mem => ⟨check path mem, directory path mem, free path mem⟩

namespace Request

/-- A run over the fresh target ends well and leaves the documented tree for the host. -/
theorem apply_leaves_tree_freshTarget :
    freshTarget.IsTree ∧
      freshTarget.resolve (.ofString "target") = .ok (.ofStrings ["target"]) ∧
      freshTarget.LinkFree (.ofStrings ["target"]) ∧
      (freshRequest none).DecidesQuietly Package.statusProbe ∧
      Circumstances.writing ((freshRequest none).target.join
        (.ofString "etc/sysctl.d/10-ipv6-privacy.conf")) = .none ∧
      ∃ applied, ((freshRequest none).apply .standard Package.statusProbe freshTarget).result =
          .ok applied ∧
        (freshRequest none).state freshTarget = .ok bondedHost ∧
          (freshRequest none).LeavesTree bondedHost applied (.ofStrings ["target"]) freshTarget
            ((freshRequest none).apply .standard Package.statusProbe freshTarget).files := by
  have quiet : (freshRequest none).DecidesQuietly Package.statusProbe :=
    .inr Package.statusProbe_onlyLooks
  have found := state_freshRequest none
  obtain ⟨applied, done⟩ := apply_of_isReady freshTarget_isTree resolve_freshTarget
    freshTarget_linkFree quiet (fun _ _ => rfl) found freshTarget_isReady
  obtain ⟨state, found', leaves⟩ := apply_leaves_tree freshTarget_isTree resolve_freshTarget
    freshTarget_linkFree quiet rfl done
  cases found.symm.trans found'
  exact ⟨freshTarget_isTree, resolve_freshTarget, freshTarget_linkFree, quiet, rfl, applied, done,
    found, leaves⟩

end Request
end TargetNet
