import Streamkeeper.Client.Command
import Streamkeeper.Client.Envelope
import Streamkeeper.Client.Error
import Streamkeeper.Client.Exchange
import Streamkeeper.CommandLine.Command
import Streamkeeper.Daemon.Places
import Streamkeeper.Daemon.Requests
import Streamkeeper.Daemon.Run
import Streamkeeper.Daemon.Startup
import Streamkeeper.Decimal.Digits
import Streamkeeper.Decimal.Shortest
import Streamkeeper.Error
import Streamkeeper.Execution.Behaviour
import Streamkeeper.Execution.Error
import Streamkeeper.Execution.Lifecycle
import Streamkeeper.Execution.Output
import Streamkeeper.Execution.Pump
import Streamkeeper.Execution.Supervisor
import Streamkeeper.Host.Environment
import Streamkeeper.Host.Error
import Streamkeeper.Host.Files
import Streamkeeper.Host.Path
import Streamkeeper.Host.Socket
import Streamkeeper.Journal
import Streamkeeper.Json.Basic
import Streamkeeper.Json.Canonical
import Streamkeeper.Json.Fault
import Streamkeeper.Json.Printer
import Streamkeeper.Json.Reader
import Streamkeeper.Main
import Streamkeeper.Options.Options
import Streamkeeper.Options.Session
import Streamkeeper.Options.Size
import Streamkeeper.Origin
import Streamkeeper.Provisioning.Launch
import Streamkeeper.Provisioning.Output
import Streamkeeper.Provisioning.Resolve
import Streamkeeper.Provisioning.Sdk
import Streamkeeper.Scope
import Streamkeeper.Session.Registry
import Streamkeeper.Session.Service
import Streamkeeper.StandIn
import Streamkeeper.Status
import Streamkeeper.Table
import Streamkeeper.Telemetry.Event
import Streamkeeper.Telemetry.Route
import Streamkeeper.Text.Blank
import Streamkeeper.Text.Lines
import Streamkeeper.Text.Literal
import Streamkeeper.Text.Quoted
import Streamkeeper.Text.Utf8
import Streamkeeper.Text.Visible
import Streamkeeper.Wire.Decode
import Streamkeeper.Wire.Literal
import Streamkeeper.Wire.Message
import Streamkeeper.Wire.Shape
import Streamkeeper.Wire.Tagged
import Streamkeeper.Proofs.Client.Agreement
import Streamkeeper.Proofs.Client.Formats
import Streamkeeper.Proofs.Client.Reporting
import Streamkeeper.Proofs.Daemon.Connection
import Streamkeeper.Proofs.Daemon.Failure
import Streamkeeper.Proofs.Daemon.Layers
import Streamkeeper.Proofs.Decimal
import Streamkeeper.Proofs.Execution.Process
import Streamkeeper.Proofs.Execution.Pump
import Streamkeeper.Proofs.Execution.Supervision
import Streamkeeper.Proofs.Host.Files
import Streamkeeper.Proofs.Journal
import Streamkeeper.Proofs.Json.Bounds
import Streamkeeper.Proofs.Json.Depth
import Streamkeeper.Proofs.Json.Lengths
import Streamkeeper.Proofs.Json.Line
import Streamkeeper.Proofs.Json.Members
import Streamkeeper.Proofs.Json.Pretty
import Streamkeeper.Proofs.Json.Reading
import Streamkeeper.Proofs.Json.Rounds
import Streamkeeper.Proofs.Json.Scalar
import Streamkeeper.Proofs.Json.Spelling
import Streamkeeper.Proofs.Json.Value
import Streamkeeper.Proofs.Options.Loading
import Streamkeeper.Proofs.Options.Sizes
import Streamkeeper.Proofs.Options.Values
import Streamkeeper.Proofs.Provisioning.CommandLine
import Streamkeeper.Proofs.Provisioning.Isolation
import Streamkeeper.Proofs.Provisioning.Noise
import Streamkeeper.Proofs.Provisioning.Report
import Streamkeeper.Proofs.Provisioning.Resolution
import Streamkeeper.Proofs.Scope
import Streamkeeper.Proofs.Service.Atomic
import Streamkeeper.Proofs.Service.Delivery
import Streamkeeper.Proofs.Service.Ledger
import Streamkeeper.Proofs.Service.Order
import Streamkeeper.Proofs.Service.Reported
import Streamkeeper.Proofs.Service.Validity
import Streamkeeper.Proofs.Session.Endings
import Streamkeeper.Proofs.Session.Enumeration
import Streamkeeper.Proofs.Session.Event
import Streamkeeper.Proofs.Session.Flat
import Streamkeeper.Proofs.Session.History
import Streamkeeper.Proofs.Session.Independence
import Streamkeeper.Proofs.Session.Invariant
import Streamkeeper.Proofs.Session.Lookup
import Streamkeeper.Proofs.Session.Run
import Streamkeeper.Proofs.Session.Status
import Streamkeeper.Proofs.Session.Step
import Streamkeeper.Proofs.Table
import Streamkeeper.Proofs.Text.Blank
import Streamkeeper.Proofs.Text.Lines
import Streamkeeper.Proofs.Text.Order
import Streamkeeper.Proofs.Text.Utf8
import Streamkeeper.Proofs.Text.Valid
import Streamkeeper.Proofs.Text.Words
import Streamkeeper.Proofs.Wire.Acceptance
import Streamkeeper.Proofs.Wire.Lockstep
import Streamkeeper.Proofs.Wire.RoundTrip
import Streamkeeper.Proofs.Wire.Tagged
