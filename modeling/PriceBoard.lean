import PriceBoard.Board.Step
import PriceBoard.Logging.Record
import PriceBoard.Metric.Name
import PriceBoard.Predicate.Tree
import PriceBoard.Quantity
import PriceBoard.Settings.Environment
import PriceBoard.Ticker.Rehearsal
import PriceBoard.Proofs.Calendar.Instant
import PriceBoard.Proofs.Predicate.Bounds
import PriceBoard.Proofs.Predicate.Soundness
import PriceBoard.Proofs.Decimal.Rounding
import PriceBoard.Proofs.Decimal.Packing
import PriceBoard.Proofs.Decimal.Nearest
import PriceBoard.Proofs.Decimal.Overflow
import PriceBoard.Proofs.Decimal.Shortest
import PriceBoard.Proofs.Text.Plain
import PriceBoard.Proofs.Decimal.Digits
import PriceBoard.Proofs.Decimal.Layout
import PriceBoard.Proofs.Decimal.RoundTrip
import PriceBoard.Proofs.Json.Members
import PriceBoard.Proofs.Store.Record
import PriceBoard.Proofs.Store.Index
import PriceBoard.Proofs.Store.Reachable
import PriceBoard.Proofs.Store.Course
import PriceBoard.Proofs.Board.Matching
import PriceBoard.Proofs.Board.Since
import PriceBoard.Proofs.Text.Scan
import PriceBoard.Proofs.Query.Split
import PriceBoard.Proofs.Query.Grammar
import PriceBoard.Proofs.Query.Rules
import PriceBoard.Proofs.Query.Words
import PriceBoard.Proofs.Query.Recognise
import PriceBoard.Proofs.Query.RoundTrip
import PriceBoard.Proofs.Query.Seam
import PriceBoard.Proofs.Query.Awareness
import PriceBoard.Proofs.Query.Connectives
import PriceBoard.Proofs.Ticker.Exclusion
import PriceBoard.Proofs.Ticker.Cadence
import PriceBoard.Proofs.Ticker.Shutdown
import PriceBoard.Proofs.Board.Steps
import PriceBoard.Proofs.Board.Completeness
import PriceBoard.Proofs.Store.Uniform
import PriceBoard.Proofs.Board.Persistence
import PriceBoard.Proofs.Board.Window
import PriceBoard.Proofs.Calendar.Iso
import PriceBoard.Proofs.Board.LiveHistory
import PriceBoard.Proofs.Feed.Trade
import PriceBoard.Proofs.Board.Messages
import PriceBoard.Proofs.Json.Grammar
import PriceBoard.Proofs.Json.Writing
import PriceBoard.Proofs.Board.LiveMessages
import PriceBoard.Proofs.Window
import PriceBoard.Proofs.Store.Filled
import PriceBoard.Proofs.Board.Patterns
import PriceBoard.Proofs.Web.Answers
import PriceBoard.Proofs.Web.HistoryRequests
import PriceBoard.Proofs.Web.FilterRequests
import PriceBoard.Proofs.Web.Sites
import PriceBoard.Proofs.Logging.Redaction
import PriceBoard.Proofs.Hosts
import PriceBoard.Proofs.Board.Accounting
import PriceBoard.Proofs.Service.Tending
import PriceBoard.Proofs.Service.Shutdown
import PriceBoard.Proofs.Store.Drift
import PriceBoard.Proofs.Query.Joining
import PriceBoard.Proofs.Calendar.Day
import PriceBoard.Proofs.Calendar.IsoReader
import PriceBoard.Proofs.Query.Chatter
import PriceBoard.Proofs.Query.Dates
import PriceBoard.Proofs.Query.Names
import PriceBoard.Proofs.Window.Grammar
import PriceBoard.Proofs.Query.Spellings
import PriceBoard.Proofs.Calendar.Month
import PriceBoard.Proofs.Query.NamedTimes
import PriceBoard.Proofs.Decimal.Integer
import PriceBoard.Proofs.Board.StoredForm
import PriceBoard.Proofs.Backoff
import PriceBoard.Proofs.Retry
import PriceBoard.Proofs.Feed.Stream
import PriceBoard.Proofs.Board.Listening
import PriceBoard.Proofs.Board.Durations
import PriceBoard.Proofs.Board.Disturbances
import PriceBoard.Proofs.Store.Changes
import PriceBoard.Proofs.Board.Wholeness
import PriceBoard.Proofs.Calendar.Epoch
import PriceBoard.Proofs.Logging.Places
import PriceBoard.Proofs.Board.Entries
import PriceBoard.Proofs.Web.Readiness
