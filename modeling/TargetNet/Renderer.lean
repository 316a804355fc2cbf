import TargetNet.Interfaces.Render
import TargetNet.TargetFile
import TargetNet.UdevRules

/-!
# Renderers

A renderer writes the configuration of a network state into a target. `Renderer.standard` writes three
files: the stanzas, the naming rules, and a switch that keeps the first boot from configuring the
network again. `Renderer.dryRun` only notes what it was asked for.
-/

namespace TargetNet

/-- Writes the configuration that a request asks for. -/
abbrev Renderer := RenderRequest → Job Remark Unit

namespace Renderer

/-- Where the stanzas go. -/
def interfacesPath : Path := .ofString "etc/network/interfaces"

/-- Where the naming rules go. -/
def rulesPath : Path := .ofString "etc/udev/rules.d/70-persistent-net.rules"

/-- Where the switch goes. -/
def switchPath : Path :=
  .ofString "etc/cloud/cloud.cfg.d/netseed-disable-cloudinit-networking.cfg"

/-- The content of the switch. -/
def switchText : String :=
  "network: \x7bconfig: disabled\x7d\n"

/-- The word for a truth value. -/
def truthWord (b : Bool) : String :=
  if b then "true" else "false"

/-- Writes a text into a file of the target. -/
def writeText [Circumstances] (target path : Path) (text : String) : Job Remark Unit := do
  let path ← targetPath target path
  writeFile path text.toUTF8 configMode

/-- The renderer for `ifupdown`. -/
def standard [Circumstances] : Renderer := fun request => do
  let path ← targetPath request.target interfacesPath
  Job.say .info
    ("Writing " ++ path.display ++ " (postup alias: " ++ truthWord request.postupAlias ++ ")")
  writeFile path (Interfaces.render request.postupAlias request.state).toUTF8 configMode
  writeText request.target rulesPath (UdevRules.render request.state)
  writeText request.target switchPath switchText

/-- Notes the request and writes nothing. -/
def dryRun : Renderer := fun request =>
  Job.note (.asked request)

/-- Always fails, for this reason. -/
def failing (reason : String) : Renderer := fun _ =>
  Job.fail (.render reason)

end Renderer

end TargetNet
