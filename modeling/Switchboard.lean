import Switchboard.Argument.Negotiation
import Switchboard.Argument.Schema
import Switchboard.Argument.Values
import Switchboard.Association
import Switchboard.Controller.Input
import Switchboard.Controller.Locate
import Switchboard.Controller.Options
import Switchboard.Controller.Screen
import Switchboard.Controller.Style
import Switchboard.Daemon.Settings
import Switchboard.Decimal.Binary64
import Switchboard.Decimal.Integer
import Switchboard.Decimal.Shortest
import Switchboard.Device.Arguments
import Switchboard.Device.Config
import Switchboard.Device.KnockKnock
import Switchboard.Device.Registry
import Switchboard.Device.RfSwitch
import Switchboard.Device.ZigBee
import Switchboard.Failure
import Switchboard.Hardware.Basic
import Switchboard.Hardware.Dongle
import Switchboard.Hardware.Queue
import Switchboard.Hardware.Radio
import Switchboard.Json.Cursor
import Switchboard.Json.Decoder
import Switchboard.Json.Fault
import Switchboard.Json.Numbers
import Switchboard.Json.Printer
import Switchboard.Json.Reader
import Switchboard.Json.Skip
import Switchboard.Json.Strings
import Switchboard.Json.Tagged
import Switchboard.Json.Value
import Switchboard.Main
import Switchboard.Metrics.Basic
import Switchboard.Metrics.Endpoint
import Switchboard.Metrics.Exposition
import Switchboard.Metrics.Histogram
import Switchboard.Payload.Basic
import Switchboard.Payload.Codec
import Switchboard.Payload.Frame
import Switchboard.Proofs.Argument.Encodings
import Switchboard.Proofs.Argument.Negotiation
import Switchboard.Proofs.Argument.Readable
import Switchboard.Proofs.Argument.Schema
import Switchboard.Proofs.Argument.Values
import Switchboard.Proofs.Controller.Menu
import Switchboard.Proofs.Daemon.Binding
import Switchboard.Proofs.Device.Addressing
import Switchboard.Proofs.Device.AllOff
import Switchboard.Proofs.Device.Complaints
import Switchboard.Proofs.Device.DongleMembers
import Switchboard.Proofs.Device.DongleRun
import Switchboard.Proofs.Device.Formats
import Switchboard.Proofs.Device.GoodbyeOrigin
import Switchboard.Proofs.Device.Hearing
import Switchboard.Proofs.Device.Incomplete
import Switchboard.Proofs.Device.Jokes
import Switchboard.Proofs.Device.Noticing
import Switchboard.Proofs.Device.Offers
import Switchboard.Proofs.Device.Pings
import Switchboard.Proofs.Device.RadioMembers
import Switchboard.Proofs.Device.RadioRun
import Switchboard.Proofs.Device.RecordedStates
import Switchboard.Proofs.Device.Relearning
import Switchboard.Proofs.Device.Renewal
import Switchboard.Proofs.Device.Restart
import Switchboard.Proofs.Device.Separation
import Switchboard.Proofs.Device.TableTurns
import Switchboard.Proofs.Device.ZigBeeAlike
import Switchboard.Proofs.Hardware.DeviceIds
import Switchboard.Proofs.Hardware.NetworkEvents
import Switchboard.Proofs.Hardware.QueueCount
import Switchboard.Proofs.Hardware.QueueLaw
import Switchboard.Proofs.Hardware.QueueRun
import Switchboard.Proofs.Json.Loops
import Switchboard.Proofs.Json.Printable
import Switchboard.Proofs.Json.Records
import Switchboard.Proofs.Json.Scalars
import Switchboard.Proofs.Json.Skipping
import Switchboard.Proofs.Json.Spellings
import Switchboard.Proofs.Json.Tagged
import Switchboard.Proofs.Json.Tokens
import Switchboard.Proofs.Payload.Codec
import Switchboard.Proofs.Payload.Framing
import Switchboard.Proofs.Payload.LineLimit
import Switchboard.Proofs.Payload.Lines
import Switchboard.Proofs.Payload.Spellings
import Switchboard.Proofs.Replay
import Switchboard.Proofs.Router.Conversation
import Switchboard.Proofs.Router.Goodbye
import Switchboard.Proofs.Router.Isolation
import Switchboard.Proofs.Router.LateMenus
import Switchboard.Proofs.Router.Lifecycle
import Switchboard.Proofs.Router.Registration
import Switchboard.Proofs.Router.Replies
import Switchboard.Proofs.Server.Loop
import Switchboard.Proofs.Server.Registry
import Switchboard.Proofs.Server.Selections
import Switchboard.Proofs.Service.Sharing
import Switchboard.Proofs.Service.Withdrawal
import Switchboard.Proofs.Session.Forgetting
import Switchboard.Proofs.Session.Outbound
import Switchboard.Proofs.Session.Overtaking
import Switchboard.Proofs.Session.Recording
import Switchboard.Proofs.Session.Refusal
import Switchboard.Proofs.Session.Supersession
import Switchboard.Router.Basic
import Switchboard.Router.Connection
import Switchboard.Router.Protocol
import Switchboard.Server.Basic
import Switchboard.Server.Live
import Switchboard.Service.Basic
import Switchboard.Service.Local
import Switchboard.Service.Lookup
import Switchboard.Service.Record
import Switchboard.Service.Shared
import Switchboard.Service.Stream
import Switchboard.Session.Basic
import Switchboard.Session.Connecting
import Switchboard.Session.Error
import Switchboard.Session.Link
import Switchboard.Session.Replies
import Switchboard.Store.Basic
import Switchboard.Store.Database
import Switchboard.Store.Keeping
import Switchboard.System.Address
import Switchboard.System.CommandLine
import Switchboard.System.Error
import Switchboard.System.Folder
import Switchboard.System.Network
import Switchboard.Text.Blank
import Switchboard.Text.Piece
import Switchboard.Text.Quoted
import Switchboard.Text.Visible
import Switchboard.Toml.Document
import Switchboard.Toml.Lexical
import Switchboard.Toml.Number
import Switchboard.Toml.Table
