import ZigbeeBridge.Bridge.Address
import ZigbeeBridge.Bridge.Error
import ZigbeeBridge.Bridge.Execute
import ZigbeeBridge.Bridge.Operation
import ZigbeeBridge.Bridge.Refresh
import ZigbeeBridge.Bridge.Resolution
import ZigbeeBridge.Bridge.Session
import ZigbeeBridge.Bridge.Settings
import ZigbeeBridge.Bridge.State
import ZigbeeBridge.Bus.Attribute
import ZigbeeBridge.Bus.Command
import ZigbeeBridge.Bus.Event
import ZigbeeBridge.Bus.Report
import ZigbeeBridge.Bus.Subscription
import ZigbeeBridge.Cli.Arguments
import ZigbeeBridge.Cli.Errand
import ZigbeeBridge.Cli.Error
import ZigbeeBridge.Cli.Level
import ZigbeeBridge.Cli.Order
import ZigbeeBridge.Cli.Outcome
import ZigbeeBridge.Cli.Program
import ZigbeeBridge.Cli.Resolve
import ZigbeeBridge.Cli.Usage
import ZigbeeBridge.Cli.View
import ZigbeeBridge.Config.Error
import ZigbeeBridge.Config.Layer
import ZigbeeBridge.Config.Load
import ZigbeeBridge.Config.Path
import ZigbeeBridge.Config.Profile
import ZigbeeBridge.Config.Resolve
import ZigbeeBridge.Config.Variable
import ZigbeeBridge.Data.Decode
import ZigbeeBridge.Data.Entries
import ZigbeeBridge.Data.Value
import ZigbeeBridge.Dialogue
import ZigbeeBridge.Gateway.About
import ZigbeeBridge.Gateway.Client
import ZigbeeBridge.Gateway.ColorMode
import ZigbeeBridge.Gateway.Envelope
import ZigbeeBridge.Gateway.Error
import ZigbeeBridge.Gateway.Exchange
import ZigbeeBridge.Gateway.Fragment
import ZigbeeBridge.Gateway.Group
import ZigbeeBridge.Gateway.Light
import ZigbeeBridge.Gateway.Listing
import ZigbeeBridge.Gateway.Reply
import ZigbeeBridge.Gateway.Sensor
import ZigbeeBridge.Gateway.StateChange
import ZigbeeBridge.Json.Fault
import ZigbeeBridge.Json.Numeral
import ZigbeeBridge.Json.Parser
import ZigbeeBridge.Json.Printer
import ZigbeeBridge.Json.Skip
import ZigbeeBridge.Json.Token
import ZigbeeBridge.Json.Wording
import ZigbeeBridge.Live.Connection
import ZigbeeBridge.Live.Duty
import ZigbeeBridge.Main
import ZigbeeBridge.Numeral.Double
import ZigbeeBridge.Numeral.DoubleText
import ZigbeeBridge.Numeral.Reading
import ZigbeeBridge.Numeral.Shortest
import ZigbeeBridge.Push.Channel
import ZigbeeBridge.Push.Frame
import ZigbeeBridge.Push.Message
import ZigbeeBridge.Text.Ascii
import ZigbeeBridge.Text.Blank
import ZigbeeBridge.Text.Bytes
import ZigbeeBridge.Text.Column
import ZigbeeBridge.Text.Hex
import ZigbeeBridge.Text.Integer
import ZigbeeBridge.Text.Normal
import ZigbeeBridge.Text.NormalTable
import ZigbeeBridge.Text.Position
import ZigbeeBridge.Text.Quoted
import ZigbeeBridge.Text.RangeTable
import ZigbeeBridge.Text.Table
import ZigbeeBridge.Text.Unprintable
import ZigbeeBridge.Text.Utf8
import ZigbeeBridge.Toml.Lexis
import ZigbeeBridge.Toml.Parser
import ZigbeeBridge.Toml.Printer
import ZigbeeBridge.Toml.Scalar
import ZigbeeBridge.Toml.Table
import ZigbeeBridge.Url.Basic
import ZigbeeBridge.Url.Domain
import ZigbeeBridge.Url.DomainTable
import ZigbeeBridge.Url.Ipv4
import ZigbeeBridge.Url.Ipv6
import ZigbeeBridge.Url.Parser
import ZigbeeBridge.Url.Percent
import ZigbeeBridge.Url.Printer
import ZigbeeBridge.Url.Punycode
import ZigbeeBridge.Url.Script
import ZigbeeBridge.Url.ScriptTable
import ZigbeeBridge.Wire.Base64
import ZigbeeBridge.Wire.Digest
import ZigbeeBridge.Wire.Http
import ZigbeeBridge.Wire.Packet
import ZigbeeBridge.Yaml.Printer
import ZigbeeBridge.Yaml.Scalar
import ZigbeeBridge.Proofs.Url.Stem
import ZigbeeBridge.Proofs.Dialogue.Run
import ZigbeeBridge.Proofs.Bridge.Moment
import ZigbeeBridge.Proofs.Bridge.Act
import ZigbeeBridge.Proofs.Bridge.Operation
import ZigbeeBridge.Proofs.Bridge.Health
import ZigbeeBridge.Proofs.Gateway.Call
import ZigbeeBridge.Proofs.Bridge.Command
import ZigbeeBridge.Proofs.Data.Entries
import ZigbeeBridge.Proofs.Json.Keys
import ZigbeeBridge.Proofs.Json.Numeral
import ZigbeeBridge.Proofs.Bridge.Tour
import ZigbeeBridge.Proofs.Bridge.Refresh
import ZigbeeBridge.Proofs.Bridge.Listed
import ZigbeeBridge.Proofs.Dialogue.Asks
import ZigbeeBridge.Proofs.Bridge.Address
import ZigbeeBridge.Proofs.Bridge.Session
import ZigbeeBridge.Proofs.Json.Roundtrip
import ZigbeeBridge.Proofs.Gateway.StateChange
import ZigbeeBridge.Proofs.Bus.Command
import ZigbeeBridge.Proofs.Bridge.Payload
import ZigbeeBridge.Proofs.Cli.Report
import ZigbeeBridge.Proofs.Url.Root
import ZigbeeBridge.Proofs.Url.Segment
import ZigbeeBridge.Proofs.Gateway.Item
import ZigbeeBridge.Proofs.Push.Line
import ZigbeeBridge.Proofs.Bridge.Keeps
import ZigbeeBridge.Proofs.Bridge.Tasks
import ZigbeeBridge.Proofs.Bridge.Lines
import ZigbeeBridge.Proofs.Bridge.Sequence
import ZigbeeBridge.Proofs.Bridge.Delivery
import ZigbeeBridge.Proofs.Bridge.Policy
import ZigbeeBridge.Proofs.Bridge.Effect
import ZigbeeBridge.Proofs.Bridge.Throttle
import ZigbeeBridge.Proofs.Bridge.Metadata
import ZigbeeBridge.Proofs.Bridge.Ignored
import ZigbeeBridge.Proofs.Text.Integer
import ZigbeeBridge.Proofs.Text.Hex
import ZigbeeBridge.Proofs.Data.Shape
import ZigbeeBridge.Proofs.Bus.Texts
import ZigbeeBridge.Proofs.Bus.Replay
import ZigbeeBridge.Proofs.Push.Reading
import ZigbeeBridge.Proofs.Push.Flatten
import ZigbeeBridge.Proofs.Bridge.Frame
import ZigbeeBridge.Proofs.Bridge.Asking
import ZigbeeBridge.Proofs.Bridge.Failure
import ZigbeeBridge.Proofs.Url.Punycode
import ZigbeeBridge.Proofs.Url.Domain
import ZigbeeBridge.Proofs.Url.Address
import ZigbeeBridge.Proofs.Url.Host
import ZigbeeBridge.Proofs.Url.Authority
import ZigbeeBridge.Proofs.Bridge.Barred
import ZigbeeBridge.Proofs.Bridge.Workers
import ZigbeeBridge.Proofs.Toml.Document
import ZigbeeBridge.Proofs.Config.Layer
import ZigbeeBridge.Proofs.Config.Saved
import ZigbeeBridge.Proofs.Text.Utf8
import ZigbeeBridge.Proofs.Text.Span
import ZigbeeBridge.Proofs.Bridge.Location
import ZigbeeBridge.Proofs.Bridge.Priming
import ZigbeeBridge.Proofs.Data.Width
import ZigbeeBridge.Proofs.Data.Record
import ZigbeeBridge.Proofs.Data.Traversal
import ZigbeeBridge.Proofs.Bus.LightBody
import ZigbeeBridge.Proofs.Gateway.Declared
import ZigbeeBridge.Proofs.Bus.Lossless
import ZigbeeBridge.Proofs.Gateway.Sensor
import ZigbeeBridge.Proofs.Bridge.Resolution
import ZigbeeBridge.Proofs.Cli.Resolve
import ZigbeeBridge.Proofs.Json.Written
import ZigbeeBridge.Proofs.Json.Skip
import ZigbeeBridge.Proofs.Push.Document
import ZigbeeBridge.Proofs.Push.Grammar
import ZigbeeBridge.Proofs.Gateway.Temperature
import ZigbeeBridge.Proofs.Cli.Redaction
import ZigbeeBridge.Proofs.Bridge.Scheme
import ZigbeeBridge.Proofs.Cli.Arguments
import ZigbeeBridge.Proofs.Cli.View
import ZigbeeBridge.Proofs.Cli.Switch
import ZigbeeBridge.Proofs.Gateway.Preview
