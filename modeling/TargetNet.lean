import TargetNet.Main
import TargetNet.Proofs.FileSystem.Walk
import TargetNet.Proofs.FileSystem.Write
import TargetNet.Proofs.Apply
import TargetNet.Proofs.Apply.Tree
import TargetNet.Proofs.Apply.Again
import TargetNet.Proofs.Containment
import TargetNet.Proofs.Legacy.Containment
import TargetNet.Proofs.Network.Accepted
import TargetNet.Proofs.Network.Translation
import TargetNet.Proofs.Network.Valid
import TargetNet.Proofs.Interfaces.Order
import TargetNet.Proofs.Interfaces.Uses
import TargetNet.Proofs.Interfaces.Blocks
import TargetNet.Proofs.Interfaces.Aliases
import TargetNet.Proofs.Compatibility
import TargetNet.Proofs.Network.AsConfig
import TargetNet.Proofs.Interfaces.Listing
import TargetNet.Proofs.Interfaces.Names
import TargetNet.Proofs.Text.Joined
import TargetNet.Proofs.Text.OneLine
import TargetNet.Proofs.Interfaces.Options
import TargetNet.Proofs.Interfaces.ReadBack
import TargetNet.Proofs.Interfaces.Mtu
import TargetNet.Proofs.Legacy.Again
import TargetNet.Proofs.Network.Bonds
import TargetNet.Proofs.Interfaces.Values
import TargetNet.Proofs.AllOrNothing
import TargetNet.Proofs.Legacy.Decoration
import TargetNet.Proofs.Version.Reduction
import TargetNet.Proofs.Version.Semantic
import TargetNet.Proofs.Package.Failures
import TargetNet.Proofs.Version.Display
import TargetNet.Proofs.Path.Canonical
import TargetNet.Proofs.Hook
import TargetNet.Proofs.Network.Wrapping
import TargetNet.Proofs.Interfaces.Leaves
import TargetNet.Proofs.Interfaces.Routes
import TargetNet.Proofs.MissingInput
import TargetNet.Proofs.Version.Order
import TargetNet.Proofs.Network.SavedState
