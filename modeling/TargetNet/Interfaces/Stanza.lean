import TargetNet.Network.State

/-!
# Stanzas

The configuration that `ifupdown` reads is a list of stanzas. A stanza configures one name for one
address family: a line may say when it is brought up, a header names it, and options follow, a line each.
`text` writes stanzas with a blank line between each two, and a line at the end that takes in further
files.
-/

namespace TargetNet.Interfaces

/-- An address family. -/
inductive Family where
  | inet
  | inet6
  deriving DecidableEq, Repr

/-- The word for a family. -/
def Family.word : Family → String
  | .inet => "inet"
  | .inet6 => "inet6"

/-- How a name gets its address. -/
inductive Method where
  | loopback
  | dhcp
  | static
  | manual
  deriving DecidableEq, Repr

/-- The word for a method. -/
def Method.word : Method → String
  | .loopback => "loopback"
  | .dhcp => "dhcp"
  | .static => "static"
  | .manual => "manual"

/-- An option of a stanza. -/
structure Setting where
  keyword : String
  value : String
  deriving DecidableEq, Repr

/-- The configuration of one name. -/
structure Stanza where
  /-- When the name is brought up, if the stanza says so itself. -/
  control : Option Network.Control
  name : String
  family : Family
  method : Method
  settings : List Setting
  deriving DecidableEq, Repr

/-- What stands before every option. -/
def indentation : String := "    "

/-- The line of an option. -/
def Setting.line (setting : Setting) : String :=
  indentation ++ setting.keyword ++ " " ++ setting.value

/-- The line that says when a name is brought up. -/
def controlLine (control : Network.Control) (name : String) : String :=
  match control with
  | .auto => "auto " ++ name
  | .hotplug => "allow-hotplug " ++ name
  | .manual => "# control-manual " ++ name

namespace Stanza

/-- The line that names a stanza. -/
def header (stanza : Stanza) : String :=
  "iface " ++ stanza.name ++ " " ++ stanza.family.word ++ " " ++ stanza.method.word

/-- The lines of a stanza. -/
def lines (stanza : Stanza) : List String :=
  (stanza.control.map fun control => controlLine control stanza.name).toList ++
    stanza.header :: stanza.settings.map Setting.line

/-- The lines of a stanza, each ended. -/
def block (stanza : Stanza) : String :=
  String.intercalate "\n" stanza.lines ++ "\n"

end Stanza

/-- The line that takes in further files. -/
def sourceLine : String :=
  "source /etc/network/interfaces.d/*.cfg"

/-- Stanzas as the text of a file. -/
def text (stanzas : List Stanza) : String :=
  String.intercalate "\n" (stanzas.map Stanza.block) ++ "\n" ++ sourceLine ++ "\n"

end TargetNet.Interfaces
