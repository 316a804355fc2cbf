import TargetNet.CommandLine

/-!
# Places

The paths that a command may look at or change. A picture of the host that shows these, and everything
on the way to them, is all that the command needs.
-/

namespace TargetNet

/-- The files of a target that a run may touch. -/
def targetFiles : List Path :=
  [Renderer.interfacesPath, Renderer.rulesPath, Renderer.switchPath] ++
    Legacy.known.map Legacy.Artifact.path ++ Hook.all.map Hook.path

/-- The paths that a command may touch. -/
def Command.places : Command → List Path
  | .introduce => []
  | .netState configFile output => [configFile, output]
  | .applyNet settings =>
    settings.stateFile.toList ++ settings.configFile.toList ++
      match settings.target with
      | none => []
      | some target =>
        target :: Package.statusFileOf target :: targetFiles.map target.join

/-- The paths on the way to a path, from the first directory down to the path itself. -/
def Path.stages (path : Path) : List Path :=
  path.upwards.reverse

end TargetNet
