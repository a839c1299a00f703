import NodeConsole.CommandLine.Answers
import NodeConsole.CommandLine.Fault
import NodeConsole.CommandLine.Help
import NodeConsole.CommandLine.Invocation
import NodeConsole.CommandLine.Level
import NodeConsole.CommandLine.Option
import NodeConsole.CommandLine.Verb
import NodeConsole.Console.Classify
import NodeConsole.Console.Command
import NodeConsole.Console.Failure
import NodeConsole.Console.Launch
import NodeConsole.Console.Payload
import NodeConsole.Console.Report
import NodeConsole.Console.Run
import NodeConsole.Console.Trace
import NodeConsole.Files
import NodeConsole.Gateway.Config
import NodeConsole.Gateway.Forward
import NodeConsole.Gateway.Listen
import NodeConsole.Gateway.Session
import NodeConsole.Gateway.Start
import NodeConsole.Http.Call
import NodeConsole.Http.Chunked
import NodeConsole.Http.Client
import NodeConsole.Http.Fault
import NodeConsole.Http.Header
import NodeConsole.Http.HeaderBlock
import NodeConsole.Http.Message
import NodeConsole.Http.Network
import NodeConsole.Http.Reason
import NodeConsole.Http.Redirect
import NodeConsole.Http.RequestHead
import NodeConsole.Http.Target
import NodeConsole.Http.Wire
import NodeConsole.Json.Basic
import NodeConsole.Json.Fault
import NodeConsole.Json.Message
import NodeConsole.Json.Printer
import NodeConsole.Json.Reader
import NodeConsole.Json.Record
import NodeConsole.Json.Scanner
import NodeConsole.Json.Skip
import NodeConsole.Logging.Directive
import NodeConsole.Logging.Filter
import NodeConsole.Logging.Journal
import NodeConsole.Logging.Record
import NodeConsole.Logging.Severity
import NodeConsole.Main
import NodeConsole.Number.Binary64
import NodeConsole.Number.Layout
import NodeConsole.Number.Shortest
import NodeConsole.Preferences.Basic
import NodeConsole.Preferences.Store
import NodeConsole.Settings.Assignment
import NodeConsole.Settings.CallError
import NodeConsole.Settings.Client
import NodeConsole.Settings.Config
import NodeConsole.Settings.Endpoint
import NodeConsole.Settings.Session
import NodeConsole.Text.Base64
import NodeConsole.Text.Blank
import NodeConsole.Text.Identifier
import NodeConsole.Text.Quoted
import NodeConsole.Text.Table
import NodeConsole.Text.Terminal
import NodeConsole.Text.Utf8
import NodeConsole.Text.Visible
import NodeConsole.Url.Address
import NodeConsole.Url.Basic
import NodeConsole.Url.Domain
import NodeConsole.Url.Domain.Composition
import NodeConsole.Url.Domain.Mapping
import NodeConsole.Url.Domain.Punycode
import NodeConsole.Url.Edit
import NodeConsole.Url.Error
import NodeConsole.Url.Host
import NodeConsole.Url.Parser
import NodeConsole.Url.Percent
import NodeConsole.Url.Segment
import NodeConsole.Proofs.Gateway.Destination
import NodeConsole.Proofs.Http.Exchanges
import NodeConsole.Proofs.Console.Acknowledgement
import NodeConsole.Proofs.Results
import NodeConsole.Proofs.Url.ImpliedPort
import NodeConsole.Proofs.Gateway.Forwarding
import NodeConsole.Proofs.Gateway.RequestHeaders
import NodeConsole.Proofs.Gateway.Replies
import NodeConsole.Proofs.Url.Below
import NodeConsole.Proofs.Settings.BaseUrl
import NodeConsole.Proofs.Settings.Requests
import NodeConsole.Proofs.CommandLine.Values
import NodeConsole.Proofs.CommandLine.Words
import NodeConsole.Proofs.CommandLine.Sentences
import NodeConsole.Proofs.CommandLine.Outcomes
import NodeConsole.Proofs.CommandLine.Texts
import NodeConsole.Proofs.CommandLine.SettingSources
import NodeConsole.Proofs.CommandLine.Placement
import NodeConsole.Proofs.CommandLine.Rearranged
import NodeConsole.Proofs.Console.ExitCodes
import NodeConsole.Proofs.Settings.Relay
import NodeConsole.Proofs.Preferences.LastWrite
import NodeConsole.Proofs.Text.Utf8
import NodeConsole.Proofs.Url.PercentCoding
import NodeConsole.Proofs.Url.PlainPaths
import NodeConsole.Proofs.Gateway.Transparency
import NodeConsole.Proofs.Json.Strings
import NodeConsole.Proofs.Json.Nesting
import NodeConsole.Proofs.Json.Numbers
import NodeConsole.Proofs.Json.Scalars
import NodeConsole.Proofs.Json.Values
import NodeConsole.Proofs.Json.Members
import NodeConsole.Proofs.Json.Objects
import NodeConsole.Proofs.Console.PayloadSources
import NodeConsole.Proofs.Url.Climbing
import NodeConsole.Proofs.Gateway.Areas
import NodeConsole.Proofs.Gateway.Nominations
import NodeConsole.Proofs.Gateway.HeadReplies
import NodeConsole.Proofs.Gateway.Chains
import NodeConsole.Proofs.Settings.ResourcePaths
import NodeConsole.Proofs.Settings.Wire
import NodeConsole.Proofs.Json.Listings
import NodeConsole.Proofs.Json.Decimals
import NodeConsole.Proofs.Json.RoundTrip
import NodeConsole.Proofs.Json.Indentation
import NodeConsole.Proofs.Json.Skipped
import NodeConsole.Proofs.Json.Entries
import NodeConsole.Proofs.Json.Records
import NodeConsole.Proofs.Text.Validity
import NodeConsole.Proofs.Json.Encoding
import NodeConsole.Proofs.Settings.Documents
import NodeConsole.Proofs.Settings.Replies
import NodeConsole.Proofs.Console.Resolution
import NodeConsole.Proofs.Settings.Assignments
import NodeConsole.Proofs.Json.OneLine
import NodeConsole.Proofs.Text.ByteOrder
import NodeConsole.Proofs.Console.Tables
import NodeConsole.Proofs.Console.TableLines
import NodeConsole.Proofs.Console.Readback
import NodeConsole.Proofs.Json.RecordSources
import NodeConsole.Proofs.Preferences.Documents
import NodeConsole.Proofs.Json.Grammar
import NodeConsole.Proofs.Number.Magnitudes
import NodeConsole.Proofs.Json.Numerals
import NodeConsole.Proofs.Json.Pieces
import NodeConsole.Proofs.Json.Meanings
import NodeConsole.Proofs.Json.Acceptance
import NodeConsole.Proofs.Settings.Fallback
import NodeConsole.Proofs.Gateway.AreaSegments
import NodeConsole.Proofs.Logging.Attempts
