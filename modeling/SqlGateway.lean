import SqlGateway.Action
import SqlGateway.Backend.Basic
import SqlGateway.Backend.Scripted
import SqlGateway.Backend.SqliteError
import SqlGateway.Backend.SqliteFile
import SqlGateway.Backend.SqliteLocation
import SqlGateway.Backend.Table
import SqlGateway.Binary64
import SqlGateway.Config
import SqlGateway.DataTree
import SqlGateway.Database
import SqlGateway.Decimal.Layout
import SqlGateway.Decimal.Numeral
import SqlGateway.Decimal.Shortest
import SqlGateway.Digest
import SqlGateway.Disk
import SqlGateway.Error
import SqlGateway.Json.Basic
import SqlGateway.Json.Number
import SqlGateway.Json.Reader
import SqlGateway.Json.Token
import SqlGateway.OrderedMap
import SqlGateway.Path
import SqlGateway.Query.Builder
import SqlGateway.Query.Calls
import SqlGateway.Query.Clauses
import SqlGateway.Query.Compile
import SqlGateway.Query.Condition
import SqlGateway.Query.Plan
import SqlGateway.Query.Terms
import SqlGateway.Refusal
import SqlGateway.Registry
import SqlGateway.Result.Cursor
import SqlGateway.Result.Handle
import SqlGateway.Result.Row
import SqlGateway.Result.Snapshot
import SqlGateway.Result.Store
import SqlGateway.Result.Typed
import SqlGateway.Session.Basic
import SqlGateway.Session.Catalogue
import SqlGateway.Session.Group
import SqlGateway.Session.Query
import SqlGateway.Session.Transaction
import SqlGateway.Settings
import SqlGateway.Sql.Alias
import SqlGateway.Sql.Binds
import SqlGateway.Sql.Dialect
import SqlGateway.Sql.Identifier
import SqlGateway.Sql.Keyword
import SqlGateway.Sql.Literal
import SqlGateway.Sql.PrefixSwap
import SqlGateway.Sql.Statement
import SqlGateway.Text.Blank
import SqlGateway.Text.Hex
import SqlGateway.Text.Pieces
import SqlGateway.Text.Quoted
import SqlGateway.Text.Replace
import SqlGateway.Text.Utf8
import SqlGateway.Text.Word
import SqlGateway.Value
import SqlGateway.Yaml.Node
import SqlGateway.Yaml.Place
import SqlGateway.Yaml.Scalar
import SqlGateway.Yaml.Token
import SqlGateway.Proofs.Backend.Traced
import SqlGateway.Proofs.Backend.Heard
import SqlGateway.Proofs.Backend.Logged
import SqlGateway.Proofs.Backend.Metered
import SqlGateway.Proofs.Law
import SqlGateway.Proofs.Simulation
import SqlGateway.Proofs.Session.Upkeep
import SqlGateway.Proofs.Sql.LiteralReader
import SqlGateway.Proofs.Session.Operation
import SqlGateway.Proofs.Session.Following
import SqlGateway.Proofs.Session.Watching
import SqlGateway.Proofs.Database.Operation
import SqlGateway.Proofs.Database.Debugging
import SqlGateway.Proofs.Database.Pairing
import SqlGateway.Proofs.Session.Control
import SqlGateway.Proofs.Session.Alternation
import SqlGateway.Proofs.Session.GroupOutcome
import SqlGateway.Proofs.Session.Steadfast
import SqlGateway.Proofs.Session.Holding
import SqlGateway.Proofs.Session.Remembering
import SqlGateway.Proofs.Session.Accounts
import SqlGateway.Proofs.Session.Staleness
import SqlGateway.Proofs.Query.Conditions
import SqlGateway.Proofs.Session.Sending
import SqlGateway.Proofs.Session.KeptReads
import SqlGateway.Proofs.Session.Counting
import SqlGateway.Proofs.Query.DeleteGuard
import SqlGateway.Proofs.Query.SharedConditions
import SqlGateway.Proofs.Query.ConditionMeaning
import SqlGateway.Proofs.Query.Forgetting
import SqlGateway.Proofs.Query.Standing
import SqlGateway.Proofs.Query.Terminals
import SqlGateway.Proofs.Session.Initialised
import SqlGateway.Proofs.Session.Sent
import SqlGateway.Proofs.Session.FilledMarkers
import SqlGateway.Proofs.Sql.PrefixPlace
import SqlGateway.Proofs.Sql.Protection
import SqlGateway.Proofs.Sql.Quoting
import SqlGateway.Proofs.Sql.SegmentQuotes
import SqlGateway.Proofs.Sql.Segments
import SqlGateway.Proofs.Sql.Swapping
import SqlGateway.Proofs.Sql.LiteralSwap
import SqlGateway.Proofs.Sql.Updating
import SqlGateway.Proofs.Text.Pieces
import SqlGateway.Proofs.Text.Tidy
import SqlGateway.Proofs.Query.Additions
import SqlGateway.Proofs.Query.TrackedAliases
import SqlGateway.Proofs.Json.Numerals
import SqlGateway.Proofs.Json.RoundTrip
import SqlGateway.Proofs.Disk
import SqlGateway.Proofs.Result.SnapshotText
import SqlGateway.Proofs.Result.Stores
import SqlGateway.Proofs.OrderedMap
import SqlGateway.Proofs.Query.Merging
import SqlGateway.Proofs.Query.RefusedWrites
import SqlGateway.Proofs.Query.Leftovers
import SqlGateway.Proofs.Query.Assignments
import SqlGateway.Proofs.Query.Batches
import SqlGateway.Proofs.Query.BatchInserts
import SqlGateway.Proofs.Query.TableDeletes
import SqlGateway.Proofs.Query.UpdateQueue
import SqlGateway.Proofs.Query.BatchUpdates
import SqlGateway.Proofs.Query.BatchConditions
import SqlGateway.Proofs.Session.Rejections
import SqlGateway.Proofs.Session.FailedControl
import SqlGateway.Proofs.Session.Transitions
import SqlGateway.Proofs.Session.TestGroups
import SqlGateway.Proofs.Session.DirectStatements
import SqlGateway.Proofs.Session.Unwinding
import SqlGateway.Proofs.Sql.LikePattern
import SqlGateway.Proofs.Query.Likeness
import SqlGateway.Proofs.Result.CursorPage
import SqlGateway.Proofs.Result.NamedValues
import SqlGateway.Proofs.Result.Detaching
import SqlGateway.Proofs.Registry.Instances
import SqlGateway.Proofs.Registry.Operation
import SqlGateway.Proofs.Registry.Sharing
import SqlGateway.Proofs.Registry.Keys
import SqlGateway.Proofs.Registry.OpenInstances
import SqlGateway.Proofs.Session.Answers
import SqlGateway.Proofs.Sql.EdgeQuotes
import SqlGateway.Proofs.Query.SingleRows
import SqlGateway.Proofs.Query.TableCounts
import SqlGateway.Proofs.Query.RowCounts
import SqlGateway.Proofs.Text.Layout
import SqlGateway.Proofs.Query.FunctionCalls
import SqlGateway.Proofs.Query.JoinConditions
import SqlGateway.Proofs.Sql.KeyOperators
import SqlGateway.Proofs.Query.Predicates
import SqlGateway.Proofs.Query.Commuting
import SqlGateway.Proofs.Query.LimitedUpdates
import SqlGateway.Proofs.Sql.QuoteRuns
import SqlGateway.Proofs.Sql.AliasParts
import SqlGateway.Proofs.Result.KeptValues
import SqlGateway.Proofs.Session.OutdatedNames
