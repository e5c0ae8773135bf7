import Switchboard.Addresses
import Switchboard.Agent.Announcement
import Switchboard.Agent.Chunked
import Switchboard.Agent.Domain
import Switchboard.Agent.Domain.Mapping
import Switchboard.Agent.Entry
import Switchboard.Agent.Exchange
import Switchboard.Agent.Fault
import Switchboard.Agent.Host
import Switchboard.Agent.Reply
import Switchboard.Agent.Request
import Switchboard.Agent.Url
import Switchboard.Agent.Url.Reading
import Switchboard.Agent.Url.Sendable
import Switchboard.Arguments
import Switchboard.Backend
import Switchboard.Backend.Queries
import Switchboard.Backoff
import Switchboard.Callee
import Switchboard.Catalog
import Switchboard.Clockwork
import Switchboard.CommandLine
import Switchboard.Dispatch
import Switchboard.Document
import Switchboard.Document.Json
import Switchboard.Document.Yaml
import Switchboard.Duration
import Switchboard.Duration.Grammar
import Switchboard.Failure
import Switchboard.Fault
import Switchboard.Feed
import Switchboard.Feed.Session
import Switchboard.Files
import Switchboard.Handle
import Switchboard.Inspect
import Switchboard.Json
import Switchboard.Line.Framing
import Switchboard.Line.Peer
import Switchboard.Logging.Directive
import Switchboard.Logging.Filter
import Switchboard.Logging.Layout
import Switchboard.Logging.Level
import Switchboard.Logging.Line
import Switchboard.Logging.Pattern
import Switchboard.Main
import Switchboard.Middleware
import Switchboard.Pipeline
import Switchboard.Pool
import Switchboard.Program.Announcing
import Switchboard.Program.Calling
import Switchboard.Program.Limits
import Switchboard.Program.Origin
import Switchboard.Program.Session
import Switchboard.Program.Watching
import Switchboard.Registrar
import Switchboard.Report
import Switchboard.Retry
import Switchboard.Rotation
import Switchboard.Script
import Switchboard.Service
import Switchboard.Service.Form
import Switchboard.Settings
import Switchboard.Settings.Draft
import Switchboard.Settings.Reader
import Switchboard.Snapshot
import Switchboard.Supply
import Switchboard.Tally
import Switchboard.Text.Binary64
import Switchboard.Text.Blank
import Switchboard.Text.Decoding
import Switchboard.Text.Numeral
import Switchboard.Text.Outline
import Switchboard.Text.Percent
import Switchboard.Text.Printable
import Switchboard.Text.Punycode
import Switchboard.Text.Quoted
import Switchboard.Text.Unicode.Composition
import Switchboard.Text.Unicode.Direction
import Switchboard.Text.Unicode.Joining
import Switchboard.Text.Unicode.Letters
import Switchboard.Text.Unicode.Marks
import Switchboard.Text.Unicode.Runs
import Switchboard.Variable
import Switchboard.Watcher
import Switchboard.Watcher.Run
import Switchboard.Yaml.Cursor
import Switchboard.Yaml.Node
import Switchboard.Yaml.Text
import Switchboard.Yaml.Token
import Switchboard.Proofs.Pool.Reconcile
import Switchboard.Proofs.Pool.Ownership
import Switchboard.Proofs.Watcher.Receive
import Switchboard.Proofs.Watcher.Course
import Switchboard.Proofs.Watcher.Protocol
import Switchboard.Proofs.Pool.InStep
import Switchboard.Proofs.Watcher.Tracking
import Switchboard.Proofs.Pipeline.Agreement
import Switchboard.Proofs.Watcher.Stopping
import Switchboard.Proofs.Feed.Course
import Switchboard.Proofs.Feed.FanOut
import Switchboard.Proofs.Pool.Grace
import Switchboard.Proofs.Pool.Renewal
import Switchboard.Proofs.Pool.Readers
import Switchboard.Proofs.Catalog.Table
import Switchboard.Proofs.Catalog.Isolation
import Switchboard.Proofs.Retry.Course
import Switchboard.Proofs.Retry.Deadline
import Switchboard.Proofs.Retry.Precedence
import Switchboard.Proofs.Retry.Accounts
import Switchboard.Proofs.Pipeline.Lifecycle
import Switchboard.Proofs.Program.Limits
import Switchboard.Proofs.Lookup
import Switchboard.Proofs.Text.Numeral
import Switchboard.Proofs.Document.Grammar
import Switchboard.Proofs.Document.Reading
import Switchboard.Proofs.Document.Json
import Switchboard.Proofs.Agent.Encoding
import Switchboard.Proofs.Agent.Location
import Switchboard.Proofs.Agent.Requests
import Switchboard.Proofs.Agent.Registry
import Switchboard.Proofs.Agent.Ledger
import Switchboard.Proofs.Agent.Shapes
import Switchboard.Proofs.Agent.Answers
import Switchboard.Proofs.Agent.Agreement
import Switchboard.Proofs.Agent.Bytes
import Switchboard.Proofs.Agent.Naming
import Switchboard.Proofs.Catalog.Queries
import Switchboard.Proofs.Catalog.Settling
import Switchboard.Proofs.Catalog.Waiting
import Switchboard.Proofs.Catalog.Blocking
import Switchboard.Proofs.Rotation.Fairness
import Switchboard.Proofs.Watcher.Pacing
import Switchboard.Proofs.Duration.Grammar
import Switchboard.Proofs.Settings.Validation
import Switchboard.Proofs.Settings.Filters
import Switchboard.Proofs.Middleware.Layers
import Switchboard.Proofs.Text.Parts
import Switchboard.Proofs.Line.Reading
import Switchboard.Proofs.Line.Delivery
import Switchboard.Proofs.Program.Watching
import Switchboard.Proofs.Backoff.Schedule
import Switchboard.Proofs.Retry.Reporting
import Switchboard.Proofs.Yaml.Scanning
import Switchboard.Proofs.Yaml.Quiet
import Switchboard.Proofs.Yaml.Words
import Switchboard.Proofs.Yaml.Block
import Switchboard.Proofs.Yaml.Record
import Switchboard.Proofs.Document.Yaml
import Switchboard.Proofs.Settings.Emptiness
import Switchboard.Proofs.Settings.Places
import Switchboard.Proofs.Settings.Spelling
