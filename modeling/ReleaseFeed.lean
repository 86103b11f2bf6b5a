import ReleaseFeed.Capture.Saver
import ReleaseFeed.Element.Tree
import ReleaseFeed.Intake
import ReleaseFeed.Main
import ReleaseFeed.Proofs.Outcome
import ReleaseFeed.Proofs.Wire.Numbers
import ReleaseFeed.Proofs.Wire.Access
import ReleaseFeed.Proofs.Wire.Checked
import ReleaseFeed.Proofs.Wire.Strict
import ReleaseFeed.Proofs.Wire.Extension
import ReleaseFeed.Proofs.Wire.Placement
import ReleaseFeed.Proofs.Wire.Written
import ReleaseFeed.Proofs.Wire.RoundTrip
import ReleaseFeed.Proofs.Wire.Regions
import ReleaseFeed.Proofs.Wire.Shown
import ReleaseFeed.Proofs.Wire.Revision
import ReleaseFeed.Proofs.Wire.Truncation
import ReleaseFeed.Proofs.Element.DirectPath
import ReleaseFeed.Proofs.Runs
import ReleaseFeed.Proofs.Telemetry.Ring
import ReleaseFeed.Proofs.Telemetry.Outlet
import ReleaseFeed.Proofs.Telemetry.Admission
import ReleaseFeed.Proofs.Telemetry.Steps
import ReleaseFeed.Proofs.Telemetry.Safety
import ReleaseFeed.Proofs.Telemetry.Sessions
import ReleaseFeed.Proofs.Telemetry.Spans
import ReleaseFeed.Proofs.Bus.Watching
import ReleaseFeed.Proofs.Bus.Deliveries
import ReleaseFeed.Proofs.Bus.Subscriptions
import ReleaseFeed.Proofs.Element.Contents
import ReleaseFeed.Proofs.Element.Warnings
import ReleaseFeed.Proofs.Element.Columns
import ReleaseFeed.Proofs.Element.Tolerance
import ReleaseFeed.Proofs.Intake.Reports
import ReleaseFeed.Proofs.Text.Digits
import ReleaseFeed.Proofs.Storage.Disk
import ReleaseFeed.Proofs.Capture.Name
import ReleaseFeed.Proofs.Capture.Saving
import ReleaseFeed.Proofs.Capture.Order
import ReleaseFeed.Proofs.Capture.Spelling
import ReleaseFeed.Proofs.Capture.Sharing
import ReleaseFeed.Proofs.Capture.Next
import ReleaseFeed.Proofs.Capture.Failing
import ReleaseFeed.Proofs.Number.Scanning
import ReleaseFeed.Proofs.Number.Offsets
import ReleaseFeed.Proofs.Number.Longest
import ReleaseFeed.Proofs.Telemetry.Settlements
import ReleaseFeed.Proofs.Telemetry.Stopping
import ReleaseFeed.Proofs.Telemetry.Fifo
import ReleaseFeed.Proofs.Text.Utf8
import ReleaseFeed.Proofs.Telemetry.FixedText
import ReleaseFeed.Proofs.Telemetry.Cells
import ReleaseFeed.Proofs.Telemetry.EventLine
import ReleaseFeed.Proofs.Calendar.Dates
import ReleaseFeed.Proofs.Calendar.Readings
import ReleaseFeed.Proofs.Text.Numbers
import ReleaseFeed.Proofs.Calendar.Texts
import ReleaseFeed.Proofs.Program.Verdicts
import ReleaseFeed.Proofs.Line.Shape
import ReleaseFeed.Proofs.Line.OneRecord
import ReleaseFeed.Proofs.Text.Unquoted
import ReleaseFeed.Proofs.Line.ReadBack
import ReleaseFeed.Proofs.Program.Replays
import ReleaseFeed.Proofs.Program.Decodings
