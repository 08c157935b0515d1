import DriverExtension.Bridge.Basic
import DriverExtension.Bridge.Channel
import DriverExtension.Bridge.Wait
import DriverExtension.Bundle
import DriverExtension.CommandLine.Basic
import DriverExtension.CommandLine.Help
import DriverExtension.CommandLine.Parse
import DriverExtension.Completion
import DriverExtension.Console.Key
import DriverExtension.Console.Loop
import DriverExtension.Console.Panel
import DriverExtension.Document.Basic
import DriverExtension.Document.Decode
import DriverExtension.Document.Reader
import DriverExtension.Document.Writer
import DriverExtension.Event
import DriverExtension.Fault
import DriverExtension.Identifier
import DriverExtension.Lifecycle.Attempt
import DriverExtension.Lifecycle.Controller
import DriverExtension.Lifecycle.Delegate
import DriverExtension.Lifecycle.Manager
import DriverExtension.Lifecycle.Session
import DriverExtension.Log.Event
import DriverExtension.Log.Filter
import DriverExtension.Log.Level
import DriverExtension.Log.Line
import DriverExtension.Log.Pattern
import DriverExtension.Main
import DriverExtension.Number.Binary64
import DriverExtension.Number.Numeral
import DriverExtension.Number.Scanned
import DriverExtension.Number.Shortest
import DriverExtension.Program.Report
import DriverExtension.Program.Run
import DriverExtension.Program.Setup
import DriverExtension.Program.Sitting
import DriverExtension.Request
import DriverExtension.Screen.Canvas
import DriverExtension.Screen.Frame
import DriverExtension.Screen.Layout
import DriverExtension.Screen.Text
import DriverExtension.Screen.View
import DriverExtension.Settings.Basic
import DriverExtension.Settings.Store
import DriverExtension.Storage.Files
import DriverExtension.Storage.Path
import DriverExtension.Terminal.Escape
import DriverExtension.Terminal.Event
import DriverExtension.Terminal.Input
import DriverExtension.Terminal.Pump
import DriverExtension.Text.Alphanumeric
import DriverExtension.Text.Blank
import DriverExtension.Text.Cluster
import DriverExtension.Text.Clustering
import DriverExtension.Text.Emoji
import DriverExtension.Text.GraphemeExtend
import DriverExtension.Text.Lines
import DriverExtension.Text.Quoted
import DriverExtension.Text.Ranges
import DriverExtension.Text.Unprintable
import DriverExtension.Text.Utf8
import DriverExtension.Text.Wide
import DriverExtension.Text.Width
import DriverExtension.Text.ZeroWidth
import DriverExtension.Toml.Building
import DriverExtension.Toml.Excerpt
import DriverExtension.Toml.Fault
import DriverExtension.Toml.Node
import DriverExtension.Toml.Quoted
import DriverExtension.Toml.Scalar
import DriverExtension.Toml.Text
import DriverExtension.Toml.Value
import DriverExtension.Proofs.Trace
import DriverExtension.Proofs.Bridge.Channel
import DriverExtension.Proofs.Bridge.Conservation
import DriverExtension.Proofs.Lifecycle.Provenance
import DriverExtension.Proofs.Console.Turns
import DriverExtension.Proofs.Console.Outcomes
import DriverExtension.Proofs.Program.Outcome
import DriverExtension.Proofs.Wire.RoundTrip
import DriverExtension.Proofs.Wire.Format
import DriverExtension.Proofs.Bridge.Series
import DriverExtension.Proofs.Bridge.Bursts
import DriverExtension.Proofs.Lifecycle.Sinks
import DriverExtension.Proofs.Lifecycle.Numbering
import DriverExtension.Proofs.Program.Sitting
import DriverExtension.Proofs.Program.Connection
import DriverExtension.Proofs.CommandLine.Given
import DriverExtension.Proofs.Settings.Loading
import DriverExtension.Proofs.Program.Settings
import DriverExtension.Proofs.Identifier
import DriverExtension.Proofs.Text.Utf8
import DriverExtension.Proofs.Storage.Writing
import DriverExtension.Proofs.Toml.Strings
import DriverExtension.Proofs.Toml.Sections
import DriverExtension.Proofs.Settings.Saving
import DriverExtension.Proofs.Console.Keys
import DriverExtension.Proofs.Lifecycle.Callbacks
import DriverExtension.Proofs.Lifecycle.Refusals
import DriverExtension.Proofs.Program.Fallback
import DriverExtension.Proofs.Settings.Partial
import DriverExtension.Proofs.Codes
import DriverExtension.Proofs.Log.Messages
import DriverExtension.Proofs.Screen.Dialog
import DriverExtension.Proofs.Screen.Outcomes
import DriverExtension.Proofs.Terminal.Forwarding
import DriverExtension.Proofs.Number.Integers
import DriverExtension.Proofs.Document.Written
import DriverExtension.Proofs.Wire.Codes
import DriverExtension.Proofs.Screen.Areas
import DriverExtension.Proofs.Screen.Splitting
