import BrokerClient.CommandLine.Command
import BrokerClient.CommandLine.ConfigArguments
import BrokerClient.CommandLine.Grammar
import BrokerClient.CommandLine.Parser
import BrokerClient.Commands
import BrokerClient.Config.Basic
import BrokerClient.Config.Defaults
import BrokerClient.Config.Directories
import BrokerClient.Config.Discovery
import BrokerClient.Config.Files
import BrokerClient.Config.Flags
import BrokerClient.Config.Layers
import BrokerClient.Config.Loading
import BrokerClient.Config.Variables
import BrokerClient.Cookies
import BrokerClient.Dispatch.Dispatcher
import BrokerClient.Dispatch.Failure
import BrokerClient.Dispatch.Handler
import BrokerClient.Dispatch.Result
import BrokerClient.Files.Errno
import BrokerClient.Files.Path
import BrokerClient.Files.Tree
import BrokerClient.Handoff.Concurrent
import BrokerClient.Handoff.Controller
import BrokerClient.Handoff.Relaunch
import BrokerClient.Handoff.Token
import BrokerClient.Host.Assignment
import BrokerClient.Host.Environment
import BrokerClient.Host.Machine
import BrokerClient.Host.Sink
import BrokerClient.Idna.Direction
import BrokerClient.Idna.Domain
import BrokerClient.Idna.Joiners
import BrokerClient.Idna.Mapping
import BrokerClient.Idna.Punycode
import BrokerClient.Invocation
import BrokerClient.Json.Dotted
import BrokerClient.Json.Flaw
import BrokerClient.Json.Overlay
import BrokerClient.Json.Parser
import BrokerClient.Json.Printer
import BrokerClient.Json.Record
import BrokerClient.Json.Value
import BrokerClient.KeyedList
import BrokerClient.Log.Event
import BrokerClient.Log.Filter
import BrokerClient.Log.Format
import BrokerClient.Log.Logger
import BrokerClient.Main
import BrokerClient.Number.Binary64
import BrokerClient.Number.Decimal
import BrokerClient.Number.Shortest
import BrokerClient.Options.Grammar
import BrokerClient.Options.Help
import BrokerClient.Options.Parser
import BrokerClient.Program.Basic
import BrokerClient.Program.Launch
import BrokerClient.Program.Script
import BrokerClient.Program.Search
import BrokerClient.Program.Shell
import BrokerClient.Program.Tool
import BrokerClient.Proofs.CommandLine.Assignments
import BrokerClient.Proofs.CommandLine.Globals
import BrokerClient.Proofs.CommandLine.Partition
import BrokerClient.Proofs.CommandLine.Payload
import BrokerClient.Proofs.Config.Arguments
import BrokerClient.Proofs.Config.Discovery
import BrokerClient.Proofs.Config.Loading
import BrokerClient.Proofs.Config.Precedence
import BrokerClient.Proofs.Config.Reading
import BrokerClient.Proofs.Config.Repetitions
import BrokerClient.Proofs.Config.Report
import BrokerClient.Proofs.Config.Servers
import BrokerClient.Proofs.Config.Spellings
import BrokerClient.Proofs.Control
import BrokerClient.Proofs.Dispatch.Commands
import BrokerClient.Proofs.Dispatch.FailureLines
import BrokerClient.Proofs.Dispatch.Frame
import BrokerClient.Proofs.Dispatch.Outcomes
import BrokerClient.Proofs.Dispatch.Printing
import BrokerClient.Proofs.Dispatch.Reading
import BrokerClient.Proofs.Dispatch.Reports
import BrokerClient.Proofs.Files.Directories
import BrokerClient.Proofs.Files.Lookup
import BrokerClient.Proofs.Files.Parents
import BrokerClient.Proofs.Files.Remaining
import BrokerClient.Proofs.Files.Segments
import BrokerClient.Proofs.Files.Siblings
import BrokerClient.Proofs.Handoff.Coordination
import BrokerClient.Proofs.Handoff.HandoffFile
import BrokerClient.Proofs.Handoff.Marker
import BrokerClient.Proofs.Handoff.Ownership
import BrokerClient.Proofs.Handoff.Relaunching
import BrokerClient.Proofs.Handoff.Words
import BrokerClient.Proofs.Host.Action
import BrokerClient.Proofs.Host.Alike
import BrokerClient.Proofs.Host.Injection
import BrokerClient.Proofs.Host.Removal
import BrokerClient.Proofs.Host.Requests
import BrokerClient.Proofs.Host.TemporaryFile
import BrokerClient.Proofs.Invocation.Assignments
import BrokerClient.Proofs.Invocation.Consumption
import BrokerClient.Proofs.Invocation.Delegation
import BrokerClient.Proofs.Invocation.EarlyEnds
import BrokerClient.Proofs.Invocation.ExitCodes
import BrokerClient.Proofs.Invocation.Preparation
import BrokerClient.Proofs.Invocation.Steps
import BrokerClient.Proofs.Json.DottedListing
import BrokerClient.Proofs.Json.Fields
import BrokerClient.Proofs.Json.Records
import BrokerClient.Proofs.Json.Strings
import BrokerClient.Proofs.Json.Ways
import BrokerClient.Proofs.KeyedLists
import BrokerClient.Proofs.Options.Entering
import BrokerClient.Proofs.Options.Reader
import BrokerClient.Proofs.Program.Recording
import BrokerClient.Proofs.Recipe.Lines
import BrokerClient.Proofs.Recipe.Quoting
import BrokerClient.Proofs.Recipe.RoundTrip
import BrokerClient.Proofs.Server.Addresses
import BrokerClient.Proofs.Server.Checks
import BrokerClient.Proofs.Server.JsonForm
import BrokerClient.Proofs.Server.TextForm
import BrokerClient.Proofs.Session.BareNames
import BrokerClient.Proofs.Session.Closing
import BrokerClient.Proofs.Session.CookieJar
import BrokerClient.Proofs.Session.CookieListing
import BrokerClient.Proofs.Session.Forgetting
import BrokerClient.Proofs.Session.InventoryShapes
import BrokerClient.Proofs.Session.LoggingOut
import BrokerClient.Proofs.Session.Names
import BrokerClient.Proofs.Session.Opening
import BrokerClient.Proofs.Session.Reading
import BrokerClient.Proofs.Session.Removal
import BrokerClient.Proofs.Session.Replacing
import BrokerClient.Proofs.Session.Separation
import BrokerClient.Proofs.Session.StateDirectory
import BrokerClient.Proofs.Session.StateFiles
import BrokerClient.Proofs.Session.Targets
import BrokerClient.Proofs.Text.ByteOrder
import BrokerClient.Proofs.Text.Encoding
import BrokerClient.Proofs.Text.Lines
import BrokerClient.Proofs.Text.Parts
import BrokerClient.Proofs.Text.Trimming
import BrokerClient.Proofs.Url.Hosts
import BrokerClient.Proofs.Url.Written
import BrokerClient.Recipe.Makefile
import BrokerClient.Recipe.Quoting
import BrokerClient.Server
import BrokerClient.Session.Basic
import BrokerClient.Session.Broker
import BrokerClient.Session.CookieFile
import BrokerClient.Session.Target
import BrokerClient.StateDirectory
import BrokerClient.Survey
import BrokerClient.Text.OsText
import BrokerClient.Text.Splitting
import BrokerClient.Text.Utf8
import BrokerClient.Toml.Parser
import BrokerClient.Toml.Scalar
import BrokerClient.Toml.Table
import BrokerClient.Toml.Text
import BrokerClient.Unicode.Alphanumeric
import BrokerClient.Unicode.Blank
import BrokerClient.Unicode.CodePointSet
import BrokerClient.Unicode.Normalization
import BrokerClient.Unicode.RunTable
import BrokerClient.Unicode.Visible
import BrokerClient.Url.Address
import BrokerClient.Url.Basic
import BrokerClient.Url.Parser
import BrokerClient.Url.PercentCoding
