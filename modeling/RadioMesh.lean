import RadioMesh.Main
import RadioMesh.Proofs.Stream.Cutting
import RadioMesh.Proofs.Stream.Reading
import RadioMesh.Proofs.Stream.Segments
import RadioMesh.Proofs.Stream.Obliging
import RadioMesh.Proofs.Stream.Writing
import RadioMesh.Proofs.Stream.Channel
import RadioMesh.Proofs.Capture.Showing
import RadioMesh.Proofs.Clock.Nearest
import RadioMesh.Proofs.Capture.Appending
import RadioMesh.Proofs.Text.Decimal
import RadioMesh.Proofs.Record.Tolerance
import RadioMesh.Proofs.Record.Correspondence
import RadioMesh.Proofs.Record.FixedWidth
import RadioMesh.Proofs.Record.Frame
import RadioMesh.Proofs.Record.HubMessage
import RadioMesh.Proofs.Record.Nesting
import RadioMesh.Proofs.Address
import RadioMesh.Proofs.Record.ConfigRecord
import RadioMesh.Proofs.Record.ConfigSequence
import RadioMesh.Proofs.Record.MeshCommand
import RadioMesh.Proofs.Record.TrackedDevice
import RadioMesh.Proofs.CommandLine.Words
import RadioMesh.Proofs.Program.Decoding
import RadioMesh.Proofs.Capture.Dumping
import RadioMesh.Proofs.Program.RoundTrip
import RadioMesh.Proofs.Record.Positions
import RadioMesh.Proofs.Record.Demand
import RadioMesh.Proofs.Stream.WriterCalls
import RadioMesh.Proofs.Stream.Handover
import RadioMesh.Proofs.Capture.Refusing
import RadioMesh.Proofs.Stream.Ending
import RadioMesh.Proofs.Stream.Recording
import RadioMesh.Proofs.Stream.Buffering
import RadioMesh.Proofs.Stream.Accounting
import RadioMesh.Proofs.Text.SeparatedHex
import RadioMesh.Proofs.AddressSyntax
import RadioMesh.Proofs.Text.Numeral
import RadioMesh.Proofs.Clock.Order
import RadioMesh.Proofs.Clock.Narrow
import RadioMesh.Proofs.Text.Json
import RadioMesh.Proofs.Capture.JsonLines
import RadioMesh.Proofs.Record.Acceptance
import RadioMesh.Proofs.Program.ExitCodes
import RadioMesh.Proofs.Output.Sheet
