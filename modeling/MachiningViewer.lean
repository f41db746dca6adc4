import MachiningViewer.Main
import MachiningViewer.Proofs.CommandLine.Leaving
import MachiningViewer.Proofs.CommandLine.Waiting
import MachiningViewer.Proofs.Job.Names
import MachiningViewer.Proofs.Job.Presentation
import MachiningViewer.Proofs.Job.RoundTrip
import MachiningViewer.Proofs.Number.Doubles
import MachiningViewer.Proofs.Number.Scientific
import MachiningViewer.Proofs.Progress.Decoding
import MachiningViewer.Proofs.Progress.Drop
import MachiningViewer.Proofs.Progress.Heartbeats
import MachiningViewer.Proofs.Progress.Phases
import MachiningViewer.Proofs.Progress.Renewal
import MachiningViewer.Proofs.Progress.Streams
import MachiningViewer.Proofs.Progress.Teardown
import MachiningViewer.Proofs.Progress.Values
import MachiningViewer.Proofs.Toolpath.Appending
import MachiningViewer.Proofs.Toolpath.Bounds
import MachiningViewer.Proofs.Toolpath.Declared
import MachiningViewer.Proofs.Toolpath.Directives
import MachiningViewer.Proofs.Toolpath.Grammar
import MachiningViewer.Proofs.Toolpath.Layout
import MachiningViewer.Proofs.Toolpath.ModalFeeds
import MachiningViewer.Proofs.Toolpath.Scanning
import MachiningViewer.Proofs.Viewer.Availability
import MachiningViewer.Proofs.Viewer.Client
import MachiningViewer.Proofs.Viewer.Drop
import MachiningViewer.Proofs.Viewer.Finite
import MachiningViewer.Proofs.Viewer.Flows
import MachiningViewer.Proofs.Viewer.Isolation
import MachiningViewer.Proofs.Viewer.Loading
import MachiningViewer.Proofs.Viewer.Mirror
import MachiningViewer.Proofs.Viewer.Polling
import MachiningViewer.Proofs.Viewer.Renewal
import MachiningViewer.Proofs.Viewer.Retry
import MachiningViewer.Proofs.Viewer.Sessions
import MachiningViewer.Proofs.Viewer.Snapshots
import MachiningViewer.Proofs.Viewer.Teardown
import MachiningViewer.Proofs.Viewer.Units
import MachiningViewer.Scenario.Desk
import MachiningViewer.Scenario.World
