import SearchClient.ClassMap.Basic
import SearchClient.ClassMap.Naming
import SearchClient.ClassMap.Reader
import SearchClient.CommandLine.Argument
import SearchClient.CommandLine.Command
import SearchClient.CommandLine.Output
import SearchClient.CommandLine.Plan
import SearchClient.CommandLine.Run
import SearchClient.Config.Basic
import SearchClient.Config.Decode
import SearchClient.Config.Write
import SearchClient.Daemon.Host
import SearchClient.Daemon.Response
import SearchClient.Diagnostic
import SearchClient.Double.Basic
import SearchClient.Double.Layout
import SearchClient.Double.Rounding
import SearchClient.Double.Shortest
import SearchClient.Error
import SearchClient.Json.Basic
import SearchClient.Json.Printer
import SearchClient.Json.Reader
import SearchClient.Json.Sorted
import SearchClient.Main
import SearchClient.Options.Basic
import SearchClient.Options.Json
import SearchClient.Options.Normalize
import SearchClient.Proofs.ClassMap
import SearchClient.Proofs.CommandLine.NumericFilter
import SearchClient.Proofs.CommandLine.PlanFlags
import SearchClient.Proofs.Config.Ordered
import SearchClient.Proofs.Config.RoundTrip
import SearchClient.Proofs.Config.Unknown
import SearchClient.Proofs.Declaration
import SearchClient.Proofs.DocumentId
import SearchClient.Proofs.Filter
import SearchClient.Proofs.FirstOccurrence
import SearchClient.Proofs.Number
import SearchClient.Proofs.Options.Alias
import SearchClient.Proofs.Options.Coercion
import SearchClient.Proofs.Options.Normal
import SearchClient.Proofs.Query.Build
import SearchClient.Proofs.Query.Grammar
import SearchClient.Proofs.Query.Highlight
import SearchClient.Proofs.Query.Lexeme
import SearchClient.Proofs.Query.Origin
import SearchClient.Proofs.Query.Restriction
import SearchClient.Proofs.Query.RoundTrip
import SearchClient.Proofs.Query.Shape
import SearchClient.Proofs.Query.Stability
import SearchClient.Proofs.Query.Undeclared
import SearchClient.Proofs.Reported
import SearchClient.Proofs.Request.Admission
import SearchClient.Proofs.Request.Build
import SearchClient.Proofs.Request.Selection
import SearchClient.Proofs.Request.Setting
import SearchClient.Proofs.Search.Action
import SearchClient.Proofs.Search.Course
import SearchClient.Proofs.Search.Excerpt
import SearchClient.Proofs.Search.Execution
import SearchClient.Proofs.Search.FacetCache
import SearchClient.Proofs.Search.FacetCounts
import SearchClient.Proofs.Search.FacetRuns
import SearchClient.Proofs.Search.Failure
import SearchClient.Proofs.Search.Flaky
import SearchClient.Proofs.Search.Inquiry
import SearchClient.Proofs.Search.Once
import SearchClient.Proofs.Search.PageRange
import SearchClient.Proofs.Search.Paging
import SearchClient.Proofs.Search.Resolution
import SearchClient.Proofs.Search.Retry
import SearchClient.Proofs.Search.Session
import SearchClient.Proofs.Search.Similar
import SearchClient.Proofs.Search.Stage
import SearchClient.Proofs.Search.Subtotal
import SearchClient.Proofs.Search.Transcript
import SearchClient.Proofs.SortedMap
import SearchClient.Proofs.Text
import SearchClient.Proofs.Toml.DateTime
import SearchClient.Proofs.Toml.KeyOrder
import SearchClient.Query.Piece
import SearchClient.Query.Sanitize
import SearchClient.Query.Token
import SearchClient.Query.Translate
import SearchClient.Query.Tree
import SearchClient.Request.Basic
import SearchClient.Request.Build
import SearchClient.Request.Json
import SearchClient.Request.SortMode
import SearchClient.Search.Basic
import SearchClient.Search.Excerpt
import SearchClient.Search.Facet
import SearchClient.Search.Hit
import SearchClient.Search.Operation
import SearchClient.Search.Retry
import SearchClient.Search.World
import SearchClient.SortedMap
import SearchClient.Text.Alphabetic
import SearchClient.Text.Capital
import SearchClient.Text.Character
import SearchClient.Text.Hexadecimal
import SearchClient.Text.Mark
import SearchClient.Text.Number
import SearchClient.Text.Numeric
import SearchClient.Text.Ranges
import SearchClient.Text.Recent
import SearchClient.Text.Split
import SearchClient.Toml.Basic
import SearchClient.Toml.DateTime
import SearchClient.Toml.Format
import SearchClient.Toml.Node
import SearchClient.Toml.Printer
import SearchClient.Toml.Reader
import SearchClient.Toml.Scalar
import SearchClient.Value.Filter
import SearchClient.Value.Json
import SearchClient.Value.Raw
import SearchClient.Value.Scalar
