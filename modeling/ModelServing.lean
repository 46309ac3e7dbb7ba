import ModelServing.Bundle
import ModelServing.Command.Execution
import ModelServing.Command.Invocation
import ModelServing.Command.Options
import ModelServing.Command.Outcome
import ModelServing.Console.Color
import ModelServing.Console.Display
import ModelServing.Console.Layout
import ModelServing.Console.Literal
import ModelServing.Console.Markup
import ModelServing.Console.Pictographs
import ModelServing.Console.Shortcode
import ModelServing.Console.Style
import ModelServing.Console.Width
import ModelServing.Engine.Backend
import ModelServing.Engine.Detection
import ModelServing.Engine.Inquiry
import ModelServing.Engine.Installation
import ModelServing.Engine.Machine
import ModelServing.Engine.Session
import ModelServing.Error.Backend
import ModelServing.Error.Failure
import ModelServing.Error.Kind
import ModelServing.Filesystem.Change
import ModelServing.Filesystem.Errno
import ModelServing.Filesystem.Lookup
import ModelServing.Filesystem.Path
import ModelServing.Filesystem.Size
import ModelServing.Filesystem.Tree
import ModelServing.Launch.Arguments
import ModelServing.Launch.Mode
import ModelServing.Log.LineSink
import ModelServing.Log.LoggerSink
import ModelServing.Log.Record
import ModelServing.Log.RootLogger
import ModelServing.Main
import ModelServing.Number.Binary64
import ModelServing.Number.Notation
import ModelServing.Number.Numeral
import ModelServing.Number.Reading
import ModelServing.Proofs.Command.RegistryFault
import ModelServing.Proofs.Command.ServedArguments
import ModelServing.Proofs.Command.ShownArguments
import ModelServing.Proofs.Command.ShownVersion
import ModelServing.Proofs.Command.ToldError
import ModelServing.Proofs.Console.Heading
import ModelServing.Proofs.Console.PlainDisplay
import ModelServing.Proofs.Console.Shortcode
import ModelServing.Proofs.Engine.CancelledCheck
import ModelServing.Proofs.Engine.Decision
import ModelServing.Proofs.Engine.DiskUsage
import ModelServing.Proofs.Engine.Faults
import ModelServing.Proofs.Engine.LaunchHistory
import ModelServing.Proofs.Engine.LaunchedBinary
import ModelServing.Proofs.Engine.Overwriting
import ModelServing.Proofs.Engine.ReportedLauncher
import ModelServing.Proofs.Engine.ShownState
import ModelServing.Proofs.Engine.VersionFile
import ModelServing.Proofs.Engine.VersionPlace
import ModelServing.Proofs.Engine.WeightsDirectory
import ModelServing.Proofs.Launch.CommandLine
import ModelServing.Proofs.Launch.ContextLength
import ModelServing.Proofs.Launch.ModelDirectory
import ModelServing.Proofs.Launch.WeightsSpelling
import ModelServing.Proofs.Log.Flushing
import ModelServing.Proofs.Log.Setup
import ModelServing.Proofs.Registry.DocumentShape
import ModelServing.Proofs.Registry.Loading
import ModelServing.Proofs.Registry.Reload
import ModelServing.Proofs.Registry.StoredWeights
import ModelServing.Proofs.Run.Cancellation
import ModelServing.Proofs.Run.ExitReport
import ModelServing.Proofs.Run.LaunchFailure
import ModelServing.Proofs.Run.LineDelivery
import ModelServing.Proofs.Run.LoggedOutput
import ModelServing.Proofs.Run.StaleSocket
import ModelServing.Proofs.Run.Turns
import ModelServing.Proofs.Shell.Words
import ModelServing.Registry.Bundles
import ModelServing.Registry.Document
import ModelServing.Registry.Store
import ModelServing.Run.Child
import ModelServing.Run.Conduct
import ModelServing.Run.Image
import ModelServing.Run.Pump
import ModelServing.Run.Server
import ModelServing.Run.Sink
import ModelServing.Run.Start
import ModelServing.Run.Supervision
import ModelServing.Schema.Field
import ModelServing.Schema.Issue
import ModelServing.Settings
import ModelServing.Shell.Arithmetic
import ModelServing.Shell.Builtins
import ModelServing.Shell.Evaluation
import ModelServing.Shell.Fields
import ModelServing.Shell.Format
import ModelServing.Shell.Jobs
import ModelServing.Shell.Pattern
import ModelServing.Shell.Programs
import ModelServing.Shell.Reader
import ModelServing.Shell.State
import ModelServing.Shell.Syntax
import ModelServing.Shell.Test
import ModelServing.Shell.Words
import ModelServing.Text.Base64
import ModelServing.Text.Blank
import ModelServing.Text.Lines
import ModelServing.Text.LowerCase
import ModelServing.Text.Printable
import ModelServing.Text.Quoted
import ModelServing.Text.Utf8
import ModelServing.Value
import ModelServing.Yaml.BlockScalar
import ModelServing.Yaml.Cursor
import ModelServing.Yaml.Document
import ModelServing.Yaml.Fault
import ModelServing.Yaml.Implicit
import ModelServing.Yaml.Lexing
import ModelServing.Yaml.Node
import ModelServing.Yaml.PlainScalar
import ModelServing.Yaml.Properties
import ModelServing.Yaml.QuotedScalar
import ModelServing.Yaml.Scalar
import ModelServing.Yaml.Tag
import ModelServing.Yaml.Timestamp
import ModelServing.Yaml.Token
