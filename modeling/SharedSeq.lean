import SharedSeq.Kind
import SharedSeq.Text.Decimal
import SharedSeq.Fault
import SharedSeq.Slice.Position
import SharedSeq.Slice.Bounds
import SharedSeq.Slice.Walk
import SharedSeq.Text.Ranges
import SharedSeq.Text.Alphanumeric
import SharedSeq.Text.Blank
import SharedSeq.Text.Utf8
import SharedSeq.Text.Unprintable
import SharedSeq.Text.Quoted
import SharedSeq.Text.Cut
import SharedSeq.Pattern
import SharedSeq.Pattern.Reader
import SharedSeq.Sequence
import SharedSeq.Spine
import SharedSeq.Buffer
import SharedSeq.Value
import SharedSeq.Store
import SharedSeq.Store.Reach
import SharedSeq.Bytes.LittleEndian
import SharedSeq.Snapshot
import SharedSeq.Snapshot.Unfold
import SharedSeq.Snapshot.Codec
import SharedSeq.Snapshot.Capture
import SharedSeq.Snapshot.Build
import SharedSeq.Sink
import SharedSeq.Rendering
import SharedSeq.Equality
import SharedSeq.Scope
import SharedSeq.Snapshot.Inspect
import SharedSeq.Config
import SharedSeq.Log
import SharedSeq.Log.Directive
import SharedSeq.Log.Filter
import SharedSeq.Script.Step
import SharedSeq.Script
import SharedSeq.Call
import SharedSeq.Session
import SharedSeq.Program
import SharedSeq.Proofs.Unfolding
import SharedSeq.Proofs.Readers
import SharedSeq.Proofs.BinaryForm
import SharedSeq.Proofs.Truncation
import SharedSeq.Proofs.Changes
import SharedSeq.Proofs.Building
import SharedSeq.Proofs.Operations
import SharedSeq.Proofs.Commands
import SharedSeq.Proofs.ScriptSteps
import SharedSeq.Proofs.Separation
import SharedSeq.Proofs.Copies
import SharedSeq.Proofs.Growth
import SharedSeq.Proofs.Cycles
import SharedSeq.Proofs.Depth
import SharedSeq.Proofs.Written
import SharedSeq.Proofs.Locality
import SharedSeq.Proofs.PendingMessage
import SharedSeq.Proofs.Places
import SharedSeq.Proofs.ContentEquality
import SharedSeq.Proofs.Selections
import SharedSeq.Proofs.FaultActions
import SharedSeq.Proofs.Traversal
import SharedSeq.Proofs.Extension
import SharedSeq.Proofs.CappedOutput
import SharedSeq.Proofs.Readability
import SharedSeq.Proofs.LenientReading
import SharedSeq.Proofs.DisplayedText
import SharedSeq.Proofs.SliceWindows
import SharedSeq.Proofs.Access
import SharedSeq.Proofs.SliceAlgebra
import SharedSeq.Proofs.OpenEnd
import SharedSeq.Proofs.FilterForms
import SharedSeq.Proofs.LoggedFaults
