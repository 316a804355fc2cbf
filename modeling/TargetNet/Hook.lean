import TargetNet.TargetFile

/-!
# Hooks

Scripts that the init system runs when an interface comes up. Setting the MTU of a device also clamps
the MTU of IPv6 on it, so one script notes both before an interface comes up, and another repairs them
afterwards. Hooks are installed one after another, and the first failure ends the run.
-/

namespace TargetNet

/-- A script and where it goes, below the target. -/
structure Hook where
  path : Path
  content : String
  mode : Nat
  deriving DecidableEq, Repr

namespace Hook

/-- Notes the MTU of a device and of IPv6 on it. -/
def noteScript : String :=
  String.join [
    "#!/bin/sh -x\n",
    "# injected by netseed installer\n",
    "\n",
    "[ \"$IFACE\" != \"lo\" ] || exit 0\n",
    "\n",
    "# Trigger only if MTU configured\n",
    "[ -n \"$IF_MTU\" ] || exit 0\n",
    "\n",
    "CUR_DEV_MTU=$(/bin/cat /sys/class/net/$IFACE/mtu ||:)\n",
    "CUR_IPV6_MTU=$(sysctl -n net.ipv6.conf.$IFACE.mtu ||:)\n",
    "[ -n \"$CUR_DEV_MTU\" ] && echo $CUR_DEV_MTU > /run/network/$\x7bIFACE\x7d_dev.mtu\n",
    "[ -n \"$CUR_IPV6_MTU\" ] && echo $CUR_IPV6_MTU > /run/network/$\x7bIFACE\x7d_ipv6.mtu\n",
    "exit 0\n"]

/-- Raises the MTU of a device for IPv6, and undoes what IPv4 did to that of IPv6. -/
def repairScript : String :=
  String.join [
    "#!/bin/sh -x\n",
    "# injected by netseed installer\n",
    "\n",
    "[ \"$IFACE\" != \"lo\" ] || exit 0\n",
    "\n",
    "# Trigger only if MTU configured\n",
    "[ -n \"$IF_MTU\" ] || exit 0\n",
    "\n",
    "PRE_DEV_MTU=$(cat /run/network/$\x7bIFACE\x7d_dev.mtu)\n",
    "CUR_DEV_MTU=$(/bin/cat /sys/class/net/$IFACE/mtu)\n",
    "PRE_IPV6_MTU=$(cat /run/network/$\x7bIFACE\x7d_ipv6.mtu)\n",
    "CUR_IPV6_MTU=$(sysctl -n net.ipv6.conf.$IFACE.mtu)\n",
    "\n",
    "if [ \"$ADDRFAM\" = \"inet6\" ]; then\n",
    "  # We need to check the underlying interface MTU and\n",
    "  # raise it if the IPV6 mtu is larger\n",
    "  if [ $CUR_DEV_MTU -lt $IF_MTU ]; then\n",
    "      /bin/ip link set $IFACE mtu $IF_MTU\n",
    "  fi\n",
    "  /sbin/sysctl -q -e -w net.ipv6.conf.$IFACE.mtu=$IF_MTU\n",
    "\n",
    "elif [ \"$ADDRFAM\" = \"inet\" ]; then\n",
    "  # handle the clobber case where inet mtu changes v6 mtu.\n",
    "  # ifupdown will already have set dev mtu, so lower mtu\n",
    "  # if needed.  If v6 mtu was larger, it gets clamped down\n",
    "  # to the dev MTU value.\n",
    "  if [ $PRE_IPV6_MTU -lt $CUR_IPV6_MTU ]; then\n",
    "    /sbin/sysctl -q -e -w net.ipv6.conf.$IFACE.mtu=$PRE_IPV6_MTU\n",
    "  fi\n",
    "fi\n",
    "exit 0\n"]

/-- The hook that runs before an interface comes up. -/
def beforeUp : Hook :=
  ⟨.ofString "etc/network/if-pre-up.d/mtuipv6", noteScript, scriptMode⟩

/-- The hook that runs after an interface came up. -/
def afterUp : Hook :=
  ⟨.ofString "etc/network/if-up.d/mtuipv6", repairScript, scriptMode⟩

/-- Both hooks in the order of installation. -/
def all : List Hook :=
  [beforeUp, afterUp]

/-- Installs a hook and returns its path. -/
def install [Circumstances] (target : Path) (hook : Hook) : Job Note Path := do
  let path ← targetPath target hook.path
  (writeFile path hook.content.toUTF8 hook.mode).noting
  Job.report (.hookInstalled path)
  return path

/-- Installs hooks in order and returns their paths. -/
def installAll [Circumstances] (target : Path) : List Hook → Job Note (List Path)
  | [] => pure []
  | hook :: rest => do
    let path ← hook.install target
    let paths ← installAll target rest
    return path :: paths

end Hook

end TargetNet
