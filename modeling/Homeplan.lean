import Homeplan.Artifact.MemorySink
import Homeplan.Main
import Homeplan.Proofs.Artifact.Delivery
import Homeplan.Proofs.Artifact.Isolation
import Homeplan.Proofs.Artifact.OutputLayout
import Homeplan.Proofs.Artifact.Planning
import Homeplan.Proofs.Artifact.Stubs
import Homeplan.Proofs.Capability
import Homeplan.Proofs.Catalog
import Homeplan.Proofs.FirstDefect
import Homeplan.Proofs.House.Acceptance
import Homeplan.Proofs.Path
import Homeplan.Proofs.Room.Groups
import Homeplan.Proofs.Room.Indexes
import Homeplan.Proofs.Room.Insertion
import Homeplan.Proofs.Room.Lookups
import Homeplan.Proofs.Room.Names
import Homeplan.Proofs.Room.Order
import Homeplan.Proofs.Room.Paths
import Homeplan.Proofs.Room.Tags
import Homeplan.Proofs.SortedMap
import Homeplan.Proofs.Text
import Homeplan.Proofs.TypeScript.Occurrences
import Homeplan.Proofs.Artifact.Members
import Homeplan.Proofs.Artifact.References
import Homeplan.Proofs.Document.JsonScalars
import Homeplan.Proofs.Document.JsonText
import Homeplan.Proofs.Document.Reading
import Homeplan.Proofs.HousePlan.RoundTrip
import Homeplan.Proofs.Artifact.TopNames
import Homeplan.Proofs.Artifact.FreeNames
import Homeplan.Proofs.Artifact.Layout
import Homeplan.Proofs.Artifact.Rerun
import Homeplan.Proofs.FileSystem
import Homeplan.Proofs.FileSystem.Folders
import Homeplan.Proofs.FileSystem.Files
import Homeplan.Proofs.Path.Steps
import Homeplan.Proofs.Artifact.TreeRefinement
import Homeplan.Proofs.Artifact.RegistryLinks
import Homeplan.Proofs.House.Detached
import Homeplan.Proofs.Room.Refusals
import Homeplan.Proofs.House.Defects
import Homeplan.Proofs.Document.Fields
import Homeplan.Proofs.HousePlan.Listing
import Homeplan.Proofs.Config
import Homeplan.Proofs.Run
import Homeplan.Proofs.Room.InPlace
import Homeplan.Proofs.Room.UnfitWindows
import Homeplan.Proofs.TypeScript.Readback
import Homeplan.Proofs.HousePlan.SettingsOrder
import Homeplan.Proofs.TypeScript.Lines
import Homeplan.Proofs.Artifact.Overrides
import Homeplan.Proofs.Artifact.EvaluationOrder
import Homeplan.Proofs.Artifact.Folders
import Homeplan.Proofs.Artifact.DeviceMembers
import Homeplan.Proofs.Artifact.MemberSpelling
import Homeplan.Proofs.Artifact.StubComments
import Homeplan.Proofs.TypeScript.Literals
import Homeplan.Proofs.Room.UnnamedDevices
import Homeplan.Proofs.Catalog.Extension
import Homeplan.Proofs.FileSystem.Targets
import Homeplan.Proofs.FileSystem.Outcomes
import Homeplan.Proofs.Artifact.WriteEffects
import Homeplan.Proofs.TypeScript.Statements
