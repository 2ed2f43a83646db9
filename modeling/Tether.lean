import Tether.Agent
import Tether.Backoff
import Tether.Cancel
import Tether.Cancel.Chronicle
import Tether.CommandLine
import Tether.Decimal.Nearest
import Tether.Decimal.Shortest
import Tether.Duration
import Tether.Fault
import Tether.Flow
import Tether.Job.Basic
import Tether.Job.Ending
import Tether.Job.Service
import Tether.Job.Timeline
import Tether.Json.Fault
import Tether.Json.Number
import Tether.Json.Reader
import Tether.Json.Skip
import Tether.Json.Typed
import Tether.Json.Writer
import Tether.Main
import Tether.Outcome
import Tether.Plugin.ExitCode
import Tether.Plugin.Race
import Tether.Plugin.SendAnswer
import Tether.Port.Address
import Tether.Port.Forward
import Tether.Port.Host
import Tether.Port.Intake
import Tether.Port.Pump
import Tether.Port.Timeline
import Tether.Program
import Tether.Proofs.Address
import Tether.Proofs.Attempts
import Tether.Proofs.Book
import Tether.Proofs.Boundary
import Tether.Proofs.Channel
import Tether.Proofs.Cutting
import Tether.Proofs.Delivery
import Tether.Proofs.Dispatch
import Tether.Proofs.Documents
import Tether.Proofs.Ending
import Tether.Proofs.Entries
import Tether.Proofs.Execution
import Tether.Proofs.Flags
import Tether.Proofs.Form
import Tether.Proofs.Frame
import Tether.Proofs.Handles
import Tether.Proofs.History
import Tether.Proofs.Host
import Tether.Proofs.Intake
import Tether.Proofs.Jobs
import Tether.Proofs.Launch
import Tether.Proofs.Link
import Tether.Proofs.Lists
import Tether.Proofs.Loading
import Tether.Proofs.Loss
import Tether.Proofs.Numeral
import Tether.Proofs.Outbound
import Tether.Proofs.Pause
import Tether.Proofs.Provider
import Tether.Proofs.Quoting
import Tether.Proofs.Racers
import Tether.Proofs.ReadLoop
import Tether.Proofs.Reading
import Tether.Proofs.Reassembler
import Tether.Proofs.Recovery
import Tether.Proofs.Registry
import Tether.Proofs.Relay
import Tether.Proofs.Retry
import Tether.Proofs.RoundTrip
import Tether.Proofs.Service
import Tether.Proofs.Session
import Tether.Proofs.SettingsFile
import Tether.Proofs.Silence
import Tether.Proofs.Slot
import Tether.Proofs.Terminal
import Tether.Proofs.Throttle
import Tether.Proofs.Transcript
import Tether.Proofs.Trim
import Tether.Proofs.Utf8
import Tether.Proofs.Values
import Tether.Proofs.Word
import Tether.Proofs.Writing
import Tether.Provider
import Tether.Provider.Transcript
import Tether.Rate
import Tether.Registry
import Tether.Registry.Book
import Tether.Report
import Tether.Retry
import Tether.Retry.Loop
import Tether.Session.Basic
import Tether.Session.History
import Tether.Session.Outlet
import Tether.Session.Recovery
import Tether.Session.Senders
import Tether.Session.Timeline
import Tether.Settings.Basic
import Tether.Settings.File
import Tether.Settings.Json
import Tether.Settings.Location
import Tether.Settings.Part
import Tether.Settings.Sound
import Tether.Settings.Toml
import Tether.Shell.Execution
import Tether.Shell.Host
import Tether.Shell.Inbound
import Tether.Shell.Launch
import Tether.Shell.Pump
import Tether.Shell.Relay
import Tether.Shell.Terminal
import Tether.Shell.Timeline
import Tether.Shell.Words
import Tether.Socket.Channel
import Tether.Socket.Frame
import Tether.Socket.Handshake
import Tether.Socket.ReadLoop
import Tether.Socket.Timeline
import Tether.Text.Blank
import Tether.Text.Form
import Tether.Text.Header
import Tether.Text.Reassembler
import Tether.Text.Utf8
import Tether.Toml.Document
import Tether.Toml.Reader
import Tether.Toml.Scalar
import Tether.Toml.Text
import Tether.Toml.Value
import Tether.Toml.Writer
import Tether.Url.Channel
import Tether.Url.Parts
import Tether.Url.Web
import Tether.Wire.Fault
import Tether.Wire.Header
import Tether.Wire.Kind
import Tether.Wire.Message
import Tether.Wire.Reading
import Tether.Wire.SessionId
import Tether.Wire.Status
import Tether.Wire.TerminalSize
import Tether.Wire.Word
import Tether.Wire.Writing
