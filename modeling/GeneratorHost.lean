import GeneratorHost.Main
import GeneratorHost.Proofs.Options
import GeneratorHost.Proofs.Settings
import GeneratorHost.Proofs.Property
import GeneratorHost.Proofs.Act
import GeneratorHost.Proofs.Act.Simulation
import GeneratorHost.Proofs.Artifact
import GeneratorHost.Proofs.FileTree.Changes
import GeneratorHost.Proofs.FileTree.Contents
import GeneratorHost.Proofs.Generation.Output
import GeneratorHost.Proofs.Generation.Texts
import GeneratorHost.Proofs.Plugin.Unnamed
import GeneratorHost.Proofs.Run.Containment
import GeneratorHost.Proofs.Run.Failure
import GeneratorHost.Proofs.Generation.Change
import GeneratorHost.Proofs.Generation.Course
import GeneratorHost.Proofs.Generation.Contexts
import GeneratorHost.Proofs.Generation.Order
import GeneratorHost.Proofs.Run.Faults
import GeneratorHost.Proofs.Run.Observations
import GeneratorHost.Proofs.Command.Boundary
import GeneratorHost.Proofs.Session.Reporting
import GeneratorHost.Proofs.Generation.Reporting
import GeneratorHost.Proofs.Run.Reporting
import GeneratorHost.Proofs.Command.Reporting
import GeneratorHost.Proofs.Options.LastWrite
import GeneratorHost.Proofs.Plugin.Name
import GeneratorHost.Proofs.Plugin.Inheritance
import GeneratorHost.Proofs.Plugin.Namespace
import GeneratorHost.Proofs.Plugin.Change
import GeneratorHost.Proofs.Plugin.Course
import GeneratorHost.Proofs.Plugin.Sound
import GeneratorHost.Proofs.Plugin.Execution
import GeneratorHost.Proofs.Plugin.Loaded
import GeneratorHost.Proofs.Plugin.Candidates
import GeneratorHost.Proofs.Plugin.Leftovers
import GeneratorHost.Proofs.Plugin.Precedence
import GeneratorHost.Proofs.Options.Merge
import GeneratorHost.Proofs.Host
import GeneratorHost.Proofs.Artifact.Segment
import GeneratorHost.Proofs.World.Artifacts
import GeneratorHost.Proofs.Property.Partition
import GeneratorHost.Proofs.Settings.Mapping
import GeneratorHost.Proofs.Generation.Duplicates
import GeneratorHost.Proofs.AdditionalText
import GeneratorHost.Proofs.Log
import GeneratorHost.Proofs.Command.Json
import GeneratorHost.Proofs.Run.Loading
import GeneratorHost.Proofs.Run.Unread
import GeneratorHost.Proofs.Run.OutputDirectory
import GeneratorHost.Proofs.Plugin.Ownership
