import DriverCompat.Arithmetic
import DriverCompat.Bson.Display
import DriverCompat.Bson.Fault
import DriverCompat.Bson.Reader
import DriverCompat.Bson.Terminated
import DriverCompat.Bson.Typed
import DriverCompat.Bson.Value
import DriverCompat.Bson.Writer
import DriverCompat.Calendar.Date
import DriverCompat.Calendar.Instant
import DriverCompat.Check.Basic
import DriverCompat.Check.Evaluate
import DriverCompat.Check.Execute
import DriverCompat.CommandLine.Args
import DriverCompat.CommandLine.Command
import DriverCompat.CommandLine.Host
import DriverCompat.CommandLine.Logging
import DriverCompat.Config.Basic
import DriverCompat.Config.File
import DriverCompat.Console.Sink
import DriverCompat.Console.Transcript
import DriverCompat.Decimal.Binary64
import DriverCompat.Decimal.Layout
import DriverCompat.Decimal.Literal
import DriverCompat.Decimal.Shortest
import DriverCompat.Failure
import DriverCompat.Files
import DriverCompat.IoFault
import DriverCompat.Json.Fault
import DriverCompat.Json.Numeral
import DriverCompat.Json.Parser
import DriverCompat.Json.Printer
import DriverCompat.Json.Reader
import DriverCompat.Json.Skip
import DriverCompat.Json.Token
import DriverCompat.Json.Value
import DriverCompat.Main
import DriverCompat.Memory.Driver
import DriverCompat.Memory.Session
import DriverCompat.Memory.Store
import DriverCompat.Mongo.Address
import DriverCompat.Mongo.Client
import DriverCompat.Mongo.ConnectionString
import DriverCompat.Mongo.Document
import DriverCompat.Mongo.Driver
import DriverCompat.Mongo.Session
import DriverCompat.Named
import DriverCompat.Proofs.CommandLine.Execution
import DriverCompat.Proofs.Console.Cut
import DriverCompat.Proofs.Console.Delivery
import DriverCompat.Proofs.Console.Recovery
import DriverCompat.Proofs.Console.Transcript
import DriverCompat.Proofs.Files
import DriverCompat.Proofs.Json.Containers
import DriverCompat.Proofs.Json.Continuation
import DriverCompat.Proofs.Json.Lines
import DriverCompat.Proofs.Json.Passing
import DriverCompat.Proofs.Json.Scalars
import DriverCompat.Proofs.Json.Steady
import DriverCompat.Proofs.Memory.Atomicity
import DriverCompat.Proofs.Memory.Checks
import DriverCompat.Proofs.Memory.Detection
import DriverCompat.Proofs.Memory.Healthy
import DriverCompat.Proofs.Memory.Session
import DriverCompat.Proofs.Memory.Store
import DriverCompat.Proofs.Report.Counts
import DriverCompat.Proofs.Report.Lines
import DriverCompat.Proofs.Report.Marker
import DriverCompat.Proofs.Report.Provenance
import DriverCompat.Proofs.Report.RoundTrip
import DriverCompat.Proofs.Report.Truncation
import DriverCompat.Proofs.Run.Acquisition
import DriverCompat.Proofs.Run.CheckSequence
import DriverCompat.Proofs.Run.Exits
import DriverCompat.Proofs.Run.Opening
import DriverCompat.Proofs.Run.Release
import DriverCompat.Proofs.Run.Reports
import DriverCompat.Proofs.Run.Simulation
import DriverCompat.Proofs.Run.Trace
import DriverCompat.Proofs.Session.Journal
import DriverCompat.Proofs.Session.Simulation
import DriverCompat.Proofs.Text.Utf8
import DriverCompat.Registry
import DriverCompat.Report.Basic
import DriverCompat.Report.Marker
import DriverCompat.Report.Text
import DriverCompat.Run.Checks
import DriverCompat.Run.Compatibility
import DriverCompat.Run.Connection
import DriverCompat.Run.Observer
import DriverCompat.Session.Activity
import DriverCompat.Session.Call
import DriverCompat.Session.Driver
import DriverCompat.Text.Base64
import DriverCompat.Text.Blank
import DriverCompat.Text.Digit
import DriverCompat.Text.Hex
import DriverCompat.Text.Integer
import DriverCompat.Text.Invisible
import DriverCompat.Text.Lossy
import DriverCompat.Text.LowerCase
import DriverCompat.Text.Percent
import DriverCompat.Text.Quoted
import DriverCompat.Text.Similarity
import DriverCompat.Text.Split
import DriverCompat.Text.Utf8
import DriverCompat.Toml.Document
import DriverCompat.Toml.Fault
import DriverCompat.Toml.Line
import DriverCompat.Toml.Scalar
import DriverCompat.Toml.Value
import DriverCompat.Proofs.Session.Closing
import DriverCompat.Proofs.Memory.Leftovers
import DriverCompat.Proofs.Run.Duration
import DriverCompat.Proofs.Run.Notices
import DriverCompat.Proofs.Memory.Queries
import DriverCompat.Proofs.Memory.Contents
import DriverCompat.Proofs.Memory.Updates
import DriverCompat.Proofs.Memory.Identifiers
import DriverCompat.Proofs.Json.Equality
import DriverCompat.Proofs.Text.Hex
import DriverCompat.Proofs.Run.Bodies
import DriverCompat.Proofs.Console.Attempts
import DriverCompat.Proofs.Mongo.Document
import DriverCompat.Proofs.Mongo.Insertion
import DriverCompat.Proofs.Toml.Range
import DriverCompat.Proofs.Toml.Document
import DriverCompat.Proofs.Toml.Spelling
import DriverCompat.Proofs.Toml.Assignments
import DriverCompat.Proofs.Config.File
import DriverCompat.Proofs.CommandLine.Settings
import DriverCompat.Proofs.Check.Verdict
import DriverCompat.Proofs.Registry
import DriverCompat.Proofs.Mongo.Cursor
import DriverCompat.Proofs.Report.Presentation
import DriverCompat.Proofs.Calendar.Date
import DriverCompat.Proofs.Calendar.Timestamp
import DriverCompat.Proofs.Text.Bytes
import DriverCompat.Proofs.Bson.Notation
import DriverCompat.Proofs.Bson.Settled
import DriverCompat.Proofs.Mongo.Rendering
import DriverCompat.Decimal.Decimal128
import DriverCompat.Proofs.Decimal.Decimal128
