import SignalActuator.Actuation.Bench
import SignalActuator.Actuation.Context
import SignalActuator.Actuation.Effect
import SignalActuator.Actuation.Engine
import SignalActuator.Bus.Error
import SignalActuator.Bus.Options
import SignalActuator.Bus.Packet
import SignalActuator.Bus.Session
import SignalActuator.Bus.State
import SignalActuator.Bus.Traffic
import SignalActuator.Cli.Arguments
import SignalActuator.Cli.Confirmation
import SignalActuator.Cli.Program
import SignalActuator.Config.Basic
import SignalActuator.Config.Reading
import SignalActuator.Config.Rendering
import SignalActuator.Duration
import SignalActuator.Failure
import SignalActuator.Host.Environment
import SignalActuator.Host.Fault
import SignalActuator.Host.Files
import SignalActuator.Host.Programs
import SignalActuator.Host.Shell
import SignalActuator.KeyExpr
import SignalActuator.Link.Association
import SignalActuator.Link.Driver
import SignalActuator.Link.Establisher
import SignalActuator.Link.Event
import SignalActuator.Link.Operstate
import SignalActuator.Link.Supervisor
import SignalActuator.Link.Timeline
import SignalActuator.Link.Watch
import SignalActuator.Locator
import SignalActuator.Log.Layout
import SignalActuator.Log.Record
import SignalActuator.Log.Settings
import SignalActuator.Main
import SignalActuator.Message
import SignalActuator.Moves
import SignalActuator.Number.Binary64
import SignalActuator.Output.Error
import SignalActuator.Output.Gpio
import SignalActuator.Output.Line
import SignalActuator.Proofs.Actuation.Feedback
import SignalActuator.Proofs.Actuation.Handling
import SignalActuator.Proofs.Actuation.Service
import SignalActuator.Proofs.Actuation.Tracing
import SignalActuator.Proofs.Bus.Closing
import SignalActuator.Proofs.Bus.Crowding
import SignalActuator.Proofs.Bus.Declaring
import SignalActuator.Proofs.Bus.Delivery
import SignalActuator.Proofs.Bus.Moves
import SignalActuator.Proofs.Bus.Publishing
import SignalActuator.Proofs.Bus.Resubscription
import SignalActuator.Proofs.Bus.Standstill
import SignalActuator.Proofs.Bus.UserProperties
import SignalActuator.Proofs.Bus.Wire
import SignalActuator.Proofs.Cli.Confirmation
import SignalActuator.Proofs.Config.Defaults
import SignalActuator.Proofs.Config.Endpoint
import SignalActuator.Proofs.Config.Limits
import SignalActuator.Proofs.Config.Numbers
import SignalActuator.Proofs.Config.RoundTrip
import SignalActuator.Proofs.KeyExpr
import SignalActuator.Proofs.Link.Budget
import SignalActuator.Proofs.Link.Confidentiality
import SignalActuator.Proofs.Link.GivingUp
import SignalActuator.Proofs.Link.Moves
import SignalActuator.Proofs.Link.Operstate
import SignalActuator.Proofs.Link.Placeholders
import SignalActuator.Proofs.Link.Supervision
import SignalActuator.Proofs.Link.Turns
import SignalActuator.Proofs.Link.Watch
import SignalActuator.Proofs.Locator
import SignalActuator.Proofs.Moves
import SignalActuator.Proofs.Output.Gpio
import SignalActuator.Proofs.Provider.Energising
import SignalActuator.Proofs.Provider.Lifetime
import SignalActuator.Proofs.Provider.Moves
import SignalActuator.Proofs.Text.Utf8
import SignalActuator.Proofs.Timestamp
import SignalActuator.Proofs.Toml.Documents
import SignalActuator.Proofs.Toml.Integers
import SignalActuator.Proofs.Toml.Numbers
import SignalActuator.Proofs.Toml.Strings
import SignalActuator.Provider.Bench
import SignalActuator.Provider.Lifecycle
import SignalActuator.Provider.Startup
import SignalActuator.Signal
import SignalActuator.Text.Blank
import SignalActuator.Text.Quoted
import SignalActuator.Text.Unprintable
import SignalActuator.Text.Utf8
import SignalActuator.Timestamp
import SignalActuator.Toml.Document
import SignalActuator.Toml.Numbers
import SignalActuator.Toml.Printer
import SignalActuator.Toml.Reader
import SignalActuator.Toml.Strings
import SignalActuator.Toml.Typed
import SignalActuator.Toml.Value
