import CxlMailbox.Bytes
import CxlMailbox.Status
import CxlMailbox.Text.Numeral
import CxlMailbox.FlagSet
import CxlMailbox.Error
import CxlMailbox.Catalog
import CxlMailbox.Text.Blank
import CxlMailbox.Text.Unprintable
import CxlMailbox.Text.Quoted
import CxlMailbox.Device
import CxlMailbox.Text.Utf8
import CxlMailbox.Files
import CxlMailbox.World
import CxlMailbox.Backend
import CxlMailbox.Command
import CxlMailbox.Sysfs
import CxlMailbox.Text.HexBytes
import CxlMailbox.CommandLine.Failure
import CxlMailbox.CommandLine.Grammar
import CxlMailbox.CommandLine.Listing
import CxlMailbox.CommandLine.Request
import CxlMailbox.Wire
import CxlMailbox.Payload.Alert
import CxlMailbox.Payload.Background
import CxlMailbox.Payload.EventPolicy
import CxlMailbox.Payload.Revision
import CxlMailbox.Payload.Firmware
import CxlMailbox.Payload.Health
import CxlMailbox.Payload.Identify
import CxlMailbox.Payload.Log
import CxlMailbox.Session
import CxlMailbox.Inquiry
import CxlMailbox.Labels
import CxlMailbox.Registry
import CxlMailbox.CommandLine.Report
import CxlMailbox.Emulator.Device
import CxlMailbox.Emulator
import CxlMailbox.CommandLine.Program
import CxlMailbox.Main
import CxlMailbox.Script
import CxlMailbox.Proofs.Effect
import CxlMailbox.Proofs.Session
import CxlMailbox.Proofs.Simulation
import CxlMailbox.Proofs.Exchange
import CxlMailbox.Proofs.Command.Frame
import CxlMailbox.Proofs.Command.Step
import CxlMailbox.Proofs.Command.Coherence
import CxlMailbox.Proofs.Command.Resolution
import CxlMailbox.Proofs.Command.Catalog
import CxlMailbox.Proofs.Labels.Request
import CxlMailbox.Proofs.Payload.Alerts
import CxlMailbox.Proofs.Emulator.Frame
import CxlMailbox.Proofs.Emulator.ReplySize
import CxlMailbox.Proofs.Emulator.Bounds
import CxlMailbox.Proofs.Emulator.Hosting
import CxlMailbox.Proofs.Emulator.Serving
import CxlMailbox.Proofs.Labels.Refinement
import CxlMailbox.Proofs.Reply
import CxlMailbox.Proofs.Inquiry.Typed
import CxlMailbox.Proofs.Inquiry.Outcome
import CxlMailbox.Proofs.Payload.Layout
import CxlMailbox.Proofs.Payload.Formats
import CxlMailbox.Proofs.Payload.LogList
import CxlMailbox.Proofs.Command.Allocation
import CxlMailbox.Proofs.Command.Construction
import CxlMailbox.Proofs.Command.FinalOutput
import CxlMailbox.Proofs.Command.Submission
import CxlMailbox.Proofs.Command.Opcode
import CxlMailbox.Proofs.Emulator.Isolation
import CxlMailbox.Proofs.Emulator.Admission
import CxlMailbox.Proofs.Emulator.Safety
import CxlMailbox.Proofs.Emulator.Calls
import CxlMailbox.Proofs.Emulator.Execution
import CxlMailbox.Proofs.Emulator.Settings
import CxlMailbox.Proofs.Refusal
import CxlMailbox.Proofs.Node
import CxlMailbox.Proofs.Inquiry.Dialogue
import CxlMailbox.Proofs.Inquiry.LogReading
import CxlMailbox.Proofs.Inquiry.EffectsLog
import CxlMailbox.Proofs.Inquiry.Reassembly
import CxlMailbox.Proofs.Emulator.LogServing
import CxlMailbox.Proofs.Labels.Destination
import CxlMailbox.Proofs.Labels.OneSend
import CxlMailbox.Proofs.Payload.StatusWord
import CxlMailbox.Proofs.Text.Numeral
import CxlMailbox.Proofs.Text.HexBytes
import CxlMailbox.Proofs.Registry
import CxlMailbox.Proofs.Command.Payloads
import CxlMailbox.Proofs.Text.Notation
import CxlMailbox.Proofs.Text.Rendering
import CxlMailbox.Proofs.Files
import CxlMailbox.Proofs.Files.Writing
import CxlMailbox.Proofs.Discovery
import CxlMailbox.Proofs.Labels.Host
import CxlMailbox.Proofs.Labels.Commands
import CxlMailbox.Proofs.Payload.Revision
import CxlMailbox.Proofs.CommandLine.Backend
import CxlMailbox.Proofs.CommandLine.Ending
