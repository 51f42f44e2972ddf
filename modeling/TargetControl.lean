import TargetControl.Text.Blank
import TargetControl.Text.Keyed
import TargetControl.Text.Quoted
import TargetControl.Json.Writer
import TargetControl.Breakpoint
import TargetControl.MemoryValue
import TargetControl.Operation
import TargetControl.Proofs.Frame
import TargetControl.Proofs.Devices
import TargetControl.Proofs.Chronicle
import TargetControl.Proofs.History
import TargetControl.Proofs.Waiting
import TargetControl.Proofs.Interleaving
import TargetControl.Proofs.Guarding
import TargetControl.Proofs.Rejection
import TargetControl.Proofs.Releases
import TargetControl.Proofs.Ledger
import TargetControl.Proofs.Reporting
import TargetControl.Proofs.Wakeup
import TargetControl.Proofs.Courier
import TargetControl.Proofs.Delivery
import TargetControl.Proofs.Likeness
import TargetControl.Proofs.Twin
import TargetControl.Proofs.Draining
import TargetControl.Proofs.SetupRuns
import TargetControl.Proofs.Retrying
import TargetControl.Proofs.Storage
import TargetControl.Proofs.Abreast
import TargetControl.Proofs.Audit
import TargetControl.Proofs.Bystanders
import TargetControl.Proofs.SetupCalls
import TargetControl.Proofs.Conduct
import TargetControl.Proofs.Snapshots
import TargetControl.Proofs.Trees
import TargetControl.Proofs.Scanned
import TargetControl.Proofs.Instants
import TargetControl.Proofs.Codec
import TargetControl.Proofs.EventForm
import TargetControl.Proofs.SerializedForms
import TargetControl.Proofs.FileGrowth
import TargetControl.Proofs.LineFiles
import TargetControl.Proofs.EventLog
import TargetControl.Proofs.Admission
import TargetControl.Proofs.Traffic
import TargetControl.Proofs.LateCalls
import TargetControl.Proofs.Announcements
import TargetControl.Proofs.Parents
import TargetControl.Proofs.Ways
import TargetControl.Proofs.Isolation
import TargetControl.Proofs.Words
import TargetControl.Proofs.ReadBack
import TargetControl.Proofs.CallLog
import TargetControl.Proofs.Numbering
import TargetControl.Proofs.LogPlace
import TargetControl.Proofs.Registers
import TargetControl.Proofs.TextLog
