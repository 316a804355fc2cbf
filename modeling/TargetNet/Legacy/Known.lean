import TargetNet.Legacy.Artifact

/-!
# Known artifacts

The files that images of the distribution ship and that are dealt with after every rendering.
-/

namespace TargetNet.Legacy

/-- A configuration that brings up `eth0` by DHCP, whatever was rendered. -/
def eth0Config : Artifact where
  path := .ofString "etc/network/interfaces.d/eth0.cfg"
  expected := ["auto eth0", "iface eth0 inet dhcp"]
  policy := .delete
  consequence := "Dynamic networking config may not apply."

/-- What is left in the place of the privacy extensions; nothing but comments. -/
def privacyAnnotation : String :=
  "# IPv6 Privacy Extensions (RFC 4941)\n" ++
  "# Disabled by netseed\n" ++
  "# net.ipv6.conf.all.use_tempaddr = 2\n" ++
  "# net.ipv6.conf.default.use_tempaddr = 2\n"

/-- Settings that enable the privacy extensions of IPv6. -/
def privacyConfig : Artifact where
  path := .ofString "etc/sysctl.d/10-ipv6-privacy.conf"
  expected :=
    ["net.ipv6.conf.all.use_tempaddr = 2", "net.ipv6.conf.default.use_tempaddr = 2"]
  policy := .annotate privacyAnnotation
  consequence := "Disabling IPv6 privacy extensions config may not apply."

/-- The artifacts in the order in which they are dealt with. -/
def known : List Artifact :=
  [eth0Config, privacyConfig]

/-- The annotation has comments only, and so no line that counts. -/
theorem contentLinesOf_privacyAnnotation : contentLinesOf privacyAnnotation = [] := by
  decide +kernel

end TargetNet.Legacy
