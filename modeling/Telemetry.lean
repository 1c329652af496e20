import Telemetry.Aggregate.Basic
import Telemetry.Aggregate.Live
import Telemetry.Catalog
import Telemetry.CommandLine.Arguments
import Telemetry.CommandLine.Basic
import Telemetry.Config.Basic
import Telemetry.Config.Error
import Telemetry.Config.Node
import Telemetry.Config.Validation
import Telemetry.Connection.Course
import Telemetry.Connection.Fault
import Telemetry.Connection.Line
import Telemetry.Connection.Machine
import Telemetry.Connection.Policy
import Telemetry.Connection.Race
import Telemetry.Endpoint
import Telemetry.Etl.Destination
import Telemetry.Etl.Record
import Telemetry.Etl.Stats
import Telemetry.Etl.Tree
import Telemetry.Feed.Basic
import Telemetry.Files.Folder
import Telemetry.Files.Glob
import Telemetry.Gate
import Telemetry.Json.Document
import Telemetry.Json.Numeral
import Telemetry.Json.Shape
import Telemetry.Json.Value
import Telemetry.Json.Writer
import Telemetry.Location
import Telemetry.Log.Entry
import Telemetry.Log.Tail
import Telemetry.Logging.Filter
import Telemetry.Logging.Rotation
import Telemetry.Logging.Setup
import Telemetry.Main
import Telemetry.Merge
import Telemetry.Node.Census
import Telemetry.Node.Roster
import Telemetry.Node.Status
import Telemetry.Number.Binary64
import Telemetry.Number.Shortest
import Telemetry.Overview
import Telemetry.Payload
import Telemetry.Proofs.Aggregate.Basic
import Telemetry.Proofs.Aggregate.Confluence
import Telemetry.Proofs.Aggregate.Live
import Telemetry.Proofs.Aggregate.Placeholder
import Telemetry.Proofs.Aggregate.Recovery
import Telemetry.Proofs.Aggregate.Replacement
import Telemetry.Proofs.Aggregate.Reported
import Telemetry.Proofs.Catalog
import Telemetry.Proofs.Catalog.Revision
import Telemetry.Proofs.Config
import Telemetry.Proofs.Config.Node
import Telemetry.Proofs.Config.Validation
import Telemetry.Proofs.Connection.Closing
import Telemetry.Proofs.Connection.Deadline
import Telemetry.Proofs.Connection.Isolation
import Telemetry.Proofs.Connection.Moment
import Telemetry.Proofs.Connection.Orderly
import Telemetry.Proofs.Connection.Pace
import Telemetry.Proofs.Connection.Piece
import Telemetry.Proofs.Connection.Race
import Telemetry.Proofs.Connection.Story
import Telemetry.Proofs.Connection.Turn
import Telemetry.Proofs.Endpoint
import Telemetry.Proofs.Endpoint.Database
import Telemetry.Proofs.Endpoint.Query
import Telemetry.Proofs.Etl.Derivation
import Telemetry.Proofs.Etl.Levels
import Telemetry.Proofs.Etl.Lookup
import Telemetry.Proofs.Etl.News
import Telemetry.Proofs.Etl.Record
import Telemetry.Proofs.Etl.Reference
import Telemetry.Proofs.Etl.Replay
import Telemetry.Proofs.Etl.Representation
import Telemetry.Proofs.Etl.Sifting
import Telemetry.Proofs.Etl.Wire
import Telemetry.Proofs.Failure
import Telemetry.Proofs.Feed
import Telemetry.Proofs.Feed.Headline
import Telemetry.Proofs.Feed.Seeding
import Telemetry.Proofs.Feed.Sifting
import Telemetry.Proofs.Feed.Spelling
import Telemetry.Proofs.Feed.Wire
import Telemetry.Proofs.Files.Folder
import Telemetry.Proofs.Files.Glob
import Telemetry.Proofs.Gate
import Telemetry.Proofs.Gate.Announcement
import Telemetry.Proofs.Gate.Seeding
import Telemetry.Proofs.Json.Decimal
import Telemetry.Proofs.Json.Document
import Telemetry.Proofs.Json.Lexical
import Telemetry.Proofs.Json.Reading
import Telemetry.Proofs.Json.Shape
import Telemetry.Proofs.Json.Value
import Telemetry.Proofs.Log.Judgement
import Telemetry.Proofs.Log.Layers
import Telemetry.Proofs.Log.News
import Telemetry.Proofs.Log.Resend
import Telemetry.Proofs.Log.Sifting
import Telemetry.Proofs.Log.Tail
import Telemetry.Proofs.Logging.Name
import Telemetry.Proofs.Logging.Ownership
import Telemetry.Proofs.Logging.Rotation
import Telemetry.Proofs.Logging.Setup
import Telemetry.Proofs.Merge
import Telemetry.Proofs.Merge.Sifting
import Telemetry.Proofs.Node.Census
import Telemetry.Proofs.Node.Reference
import Telemetry.Proofs.Node.Roster
import Telemetry.Proofs.Node.Standing
import Telemetry.Proofs.Payload
import Telemetry.Proofs.Session
import Telemetry.Proofs.Session.Location
import Telemetry.Proofs.Simulation.Recorder
import Telemetry.Proofs.Simulation.Watchdog
import Telemetry.Proofs.Text.Blank
import Telemetry.Proofs.Text.Order
import Telemetry.Proofs.Text.Split
import Telemetry.Proofs.Text.Utf8
import Telemetry.Proofs.Time.Calendar
import Telemetry.Proofs.Time.Instant
import Telemetry.Proofs.Time.Spelling
import Telemetry.Proofs.Time.Stamp
import Telemetry.Proofs.Url
import Telemetry.Proofs.Url.Form
import Telemetry.Proofs.Url.Path
import Telemetry.Proofs.Url.Percent
import Telemetry.Session.Basic
import Telemetry.Session.Report
import Telemetry.Simulation.Recorder
import Telemetry.Simulation.Theatre
import Telemetry.Simulation.World
import Telemetry.Snapshot
import Telemetry.Text.Blank
import Telemetry.Text.CharSet
import Telemetry.Text.Composed
import Telemetry.Text.Digits
import Telemetry.Text.Hidden
import Telemetry.Text.Mark
import Telemetry.Text.Quoted
import Telemetry.Text.Split
import Telemetry.Text.Utf8
import Telemetry.Text.Word
import Telemetry.Time.Calendar
import Telemetry.Time.Instant
import Telemetry.Time.Reader
import Telemetry.Time.Span
import Telemetry.Url.Basic
import Telemetry.Url.Direction
import Telemetry.Url.Host
import Telemetry.Url.Joiner
import Telemetry.Url.Label
import Telemetry.Url.Mapping
import Telemetry.Url.Parser
import Telemetry.Url.Percent
import Telemetry.Url.Punycode
