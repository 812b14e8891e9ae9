import CloudProvider.Decimal.Shortest
import CloudProvider.Table
import CloudProvider.Text.Blank
import CloudProvider.Text.Split
import CloudProvider.Text.Uppercase
import CloudProvider.Json.Document
import CloudProvider.Json.Reader
import CloudProvider.Json.Writer
import CloudProvider.Resource.Basic
import CloudProvider.Resource.Request
import CloudProvider.Wire.Request
import CloudProvider.Fault.Operation
import CloudProvider.Retry
import CloudProvider.Wait
import CloudProvider.Wire.Settings
import CloudProvider.Settings.Discovery
import CloudProvider.Device
import CloudProvider.Membership
import CloudProvider.Metadata
import CloudProvider.Lifecycle.Operation
import CloudProvider.Lifecycle.Snapshot
import CloudProvider.Lifecycle.Vm
import CloudProvider.Simulated.Session
import CloudProvider.Proofs.World
import CloudProvider.Proofs.Trace
import CloudProvider.Proofs.Provision
import CloudProvider.Proofs.Compensation
import CloudProvider.Proofs.NoTrace
import CloudProvider.Proofs.Attachment
import CloudProvider.Proofs.Letters
import CloudProvider.Proofs.Allocation
import CloudProvider.Proofs.Served
import CloudProvider.Lifecycle.Command
import CloudProvider.Proofs.Composition
import CloudProvider.Proofs.Avoidance
import CloudProvider.Proofs.Interference
import CloudProvider.Proofs.DiskMachine
import CloudProvider.Proofs.DiskRefinement
import CloudProvider.Proofs.Absence
import CloudProvider.Proofs.Convergence
import CloudProvider.Proofs.Vanishing
import CloudProvider.Proofs.Loosening
import CloudProvider.Proofs.FreeLetters
import CloudProvider.Proofs.Lettering
import CloudProvider.Proofs.Tags
import CloudProvider.Proofs.Decoding
import CloudProvider.Proofs.Traceable
import CloudProvider.Proofs.Success
import CloudProvider.Proofs.Recording
import CloudProvider.Proofs.Networks
import CloudProvider.Proofs.Equipment
import CloudProvider.Proofs.Assembly
import CloudProvider.Proofs.Lifetime
import CloudProvider.Proofs.Transience
import CloudProvider.Proofs.Teardown
import CloudProvider.Proofs.Confirmation
import CloudProvider.Proofs.Validation
import CloudProvider.Proofs.Timing
import CloudProvider.Proofs.Pacing
import CloudProvider.Proofs.Rejection
import CloudProvider.Proofs.Ownership
import CloudProvider.Proofs.Growth
import CloudProvider.Simulated.Method
import CloudProvider.Proofs.Atomicity
import CloudProvider.Proofs.Injections
import CloudProvider.Proofs.Reattachment
import CloudProvider.Proofs.Asking
import CloudProvider.Proofs.Detachment
import CloudProvider.Proofs.Reading
import CloudProvider.Proofs.RoundTrip
import CloudProvider.Proofs.Derivation
import CloudProvider.Proofs.Snapshots
import CloudProvider.Proofs.Maintenance
import CloudProvider.Proofs.Flavors
