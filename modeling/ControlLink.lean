import ControlLink.Bridge.Address
import ControlLink.Bridge.Codec
import ControlLink.Bridge.Link
import ControlLink.Bytes
import ControlLink.CommandLine.Arguments
import ControlLink.CommandLine.Command
import ControlLink.CommandLine.Host
import ControlLink.CommandLine.Program
import ControlLink.CommandLine.Usage
import ControlLink.Config.Field
import ControlLink.Config.File
import ControlLink.Config.Inspect
import ControlLink.Config.Payload
import ControlLink.Config.Settings
import ControlLink.Config.Validation
import ControlLink.Decimal.Binary64
import ControlLink.Decimal.Numeral
import ControlLink.Decimal.Shortest
import ControlLink.Device.Fault
import ControlLink.Device.Report
import ControlLink.Device.Status
import ControlLink.Device.Version
import ControlLink.Dialogue
import ControlLink.Failure
import ControlLink.Files
import ControlLink.Firmware.Checksum
import ControlLink.Firmware.Image
import ControlLink.Json.Parser
import ControlLink.Json.Printer
import ControlLink.Json.Value
import ControlLink.Main
import ControlLink.Metrics.Metric
import ControlLink.Metrics.Reading
import ControlLink.Proofs.Bridge.Echo
import ControlLink.Proofs.Bridge.Noise
import ControlLink.Proofs.Bridge.Progress
import ControlLink.Proofs.Bridge.Stream
import ControlLink.Proofs.CommandLine.Course
import ControlLink.Proofs.CommandLine.Gate
import ControlLink.Proofs.CommandLine.Rounds
import ControlLink.Proofs.CommandLine.Validation
import ControlLink.Proofs.Config.Address
import ControlLink.Proofs.Config.Document
import ControlLink.Proofs.Config.File
import ControlLink.Proofs.Config.Limits
import ControlLink.Proofs.Config.Payload
import ControlLink.Proofs.Config.Settings
import ControlLink.Proofs.Config.Shape
import ControlLink.Proofs.Config.Size
import ControlLink.Proofs.Decimal.Numeral
import ControlLink.Proofs.Device.Reception
import ControlLink.Proofs.Device.Record
import ControlLink.Proofs.Device.Store
import ControlLink.Proofs.Device.Version
import ControlLink.Proofs.Discipline
import ControlLink.Proofs.Firmware.Burst
import ControlLink.Proofs.Firmware.Chunk
import ControlLink.Proofs.Firmware.Remainder
import ControlLink.Proofs.Json.Members
import ControlLink.Proofs.Json.RoundTrip
import ControlLink.Proofs.Json.Size
import ControlLink.Proofs.Json.Spacing
import ControlLink.Proofs.Json.Text
import ControlLink.Proofs.Session.Account
import ControlLink.Proofs.Session.Attribution
import ControlLink.Proofs.Session.Audit
import ControlLink.Proofs.Session.Closing
import ControlLink.Proofs.Session.Conduct
import ControlLink.Proofs.Session.Configuration
import ControlLink.Proofs.Session.Contact
import ControlLink.Proofs.Session.Crowd
import ControlLink.Proofs.Session.Debt
import ControlLink.Proofs.Session.Exchange
import ControlLink.Proofs.Session.Heard
import ControlLink.Proofs.Session.Line
import ControlLink.Proofs.Session.Plan
import ControlLink.Proofs.Session.Reckoning
import ControlLink.Proofs.Session.Refusal
import ControlLink.Proofs.Session.Service
import ControlLink.Proofs.Session.Storage
import ControlLink.Proofs.Session.Turn
import ControlLink.Proofs.Session.Update
import ControlLink.Proofs.Session.Validation
import ControlLink.Proofs.Session.Warning
import ControlLink.Proofs.Session.Watch
import ControlLink.Proofs.Text.Parts
import ControlLink.Proofs.Text.Utf8
import ControlLink.Proofs.Transfer.Dispatch
import ControlLink.Proofs.Transfer.Intake
import ControlLink.Proofs.Transfer.Read
import ControlLink.Proofs.Transfer.Write
import ControlLink.Proofs.Wire.Assembly
import ControlLink.Proofs.Wire.Block
import ControlLink.Proofs.Wire.Command
import ControlLink.Proofs.Wire.Offset
import ControlLink.Proofs.Wire.Response
import ControlLink.Proofs.Wire.Word
import ControlLink.Session.Channel
import ControlLink.Session.Notice
import ControlLink.Session.Operation
import ControlLink.Session.Schedule
import ControlLink.Session.Script
import ControlLink.Text.Blank
import ControlLink.Text.Hex
import ControlLink.Text.Quoted
import ControlLink.Text.Unprintable
import ControlLink.Text.Utf8
import ControlLink.Transfer.Read
import ControlLink.Transfer.Write
import ControlLink.Wire.Block
import ControlLink.Wire.Command
import ControlLink.Wire.Error
import ControlLink.Wire.Response
import ControlLink.Yaml.Character
import ControlLink.Yaml.Document
import ControlLink.Yaml.Fault
import ControlLink.Yaml.Node
import ControlLink.Yaml.Plain
import ControlLink.Yaml.Style
import ControlLink.Yaml.Token
import ControlLink.Yaml.Token.Lexer
import ControlLink.Yaml.Token.Name
import ControlLink.Yaml.Token.Scalar
import ControlLink.Yaml.Writer
