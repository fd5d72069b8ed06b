import MetricLayer.Access.Policy
import MetricLayer.Cache.Key
import MetricLayer.Cache.ResultCache
import MetricLayer.Cache.Seconds
import MetricLayer.Cache.Statistics
import MetricLayer.Calendar.Date
import MetricLayer.Calendar.Duration
import MetricLayer.Calendar.InternetTime
import MetricLayer.Calendar.IsoReader
import MetricLayer.Calendar.Moment
import MetricLayer.Calendar.Pattern
import MetricLayer.Calendar.Stamp
import MetricLayer.Calendar.UnixTime
import MetricLayer.Catalog.Record
import MetricLayer.Catalog.Store
import MetricLayer.Check.Checked
import MetricLayer.Check.Issue
import MetricLayer.Check.Reader
import MetricLayer.Dataset.Inference
import MetricLayer.Dataset.Loading
import MetricLayer.Dataset.Schema
import MetricLayer.Digest.Sha256
import MetricLayer.Expr.Basic
import MetricLayer.Expr.Fault
import MetricLayer.Expr.Lexer
import MetricLayer.Expr.Parser
import MetricLayer.Expr.Token
import MetricLayer.Failure
import MetricLayer.Http.App
import MetricLayer.Http.Body
import MetricLayer.Http.Message
import MetricLayer.Http.Payload
import MetricLayer.Http.Route
import MetricLayer.Metric.Compile
import MetricLayer.Metric.Compiled
import MetricLayer.Number.Decimal
import MetricLayer.Number.Digits
import MetricLayer.Number.FloatText
import MetricLayer.Number.Powers
import MetricLayer.Number.Rounding
import MetricLayer.Number.Shortest
import MetricLayer.Proofs.Access.RoleEntries
import MetricLayer.Proofs.Access.RowSecurity
import MetricLayer.Proofs.Cache.Balance
import MetricLayer.Proofs.Cache.Capacity
import MetricLayer.Proofs.Cache.Entries
import MetricLayer.Proofs.Cache.Key
import MetricLayer.Proofs.Cache.Recency
import MetricLayer.Proofs.Calendar.IsoReading
import MetricLayer.Proofs.Calendar.IsoText
import MetricLayer.Proofs.Check.Checked
import MetricLayer.Proofs.Dataset.Coercion
import MetricLayer.Proofs.Dataset.DateColumns
import MetricLayer.Proofs.Dataset.Inference
import MetricLayer.Proofs.Dataset.LooseCheck
import MetricLayer.Proofs.Dataset.OwnSample
import MetricLayer.Proofs.Dataset.StoredText
import MetricLayer.Proofs.Expr.CallText
import MetricLayer.Proofs.Expr.Completeness
import MetricLayer.Proofs.Expr.Cursor
import MetricLayer.Proofs.Expr.CursorReading
import MetricLayer.Proofs.Expr.Excerpt
import MetricLayer.Proofs.Expr.Faults
import MetricLayer.Proofs.Expr.FieldPlaces
import MetricLayer.Proofs.Expr.Grammar
import MetricLayer.Proofs.Expr.Language
import MetricLayer.Proofs.Expr.LexicalClasses
import MetricLayer.Proofs.Expr.Lossless
import MetricLayer.Proofs.Expr.Numerals
import MetricLayer.Proofs.Expr.Parentheses
import MetricLayer.Proofs.Expr.Relocation
import MetricLayer.Proofs.Expr.Tokens
import MetricLayer.Proofs.Expr.Written
import MetricLayer.Proofs.Http.ChangedRows
import MetricLayer.Proofs.Http.Effect
import MetricLayer.Proofs.Http.JsonFilters
import MetricLayer.Proofs.Http.References
import MetricLayer.Proofs.Http.RequestSteps
import MetricLayer.Proofs.Http.StaleRows
import MetricLayer.Proofs.Http.Transparency
import MetricLayer.Proofs.Metric.AggregateCall
import MetricLayer.Proofs.Metric.Dependencies
import MetricLayer.Proofs.Metric.Diagnosis
import MetricLayer.Proofs.Metric.Executable
import MetricLayer.Proofs.Metric.GroupedArgument
import MetricLayer.Proofs.Metric.Kind
import MetricLayer.Proofs.Metric.LeadingCall
import MetricLayer.Proofs.Metric.QuotedField
import MetricLayer.Proofs.Metric.Refusal
import MetricLayer.Proofs.Metric.StoredForm
import MetricLayer.Proofs.Metric.Totality
import MetricLayer.Proofs.Metric.VerbatimField
import MetricLayer.Proofs.Number.DecimalText
import MetricLayer.Proofs.Outcome
import MetricLayer.Proofs.Service.Action
import MetricLayer.Proofs.Service.Batching
import MetricLayer.Proofs.Service.Counts
import MetricLayer.Proofs.Service.Dangling
import MetricLayer.Proofs.Service.Described
import MetricLayer.Proofs.Service.Frame
import MetricLayer.Proofs.Service.Layout
import MetricLayer.Proofs.Service.Load
import MetricLayer.Proofs.Service.LoadPrefix
import MetricLayer.Proofs.Service.LoadRace
import MetricLayer.Proofs.Service.LoadSteps
import MetricLayer.Proofs.Service.LoadText
import MetricLayer.Proofs.Service.MetricRun
import MetricLayer.Proofs.Service.NewMetric
import MetricLayer.Proofs.Service.Reading
import MetricLayer.Proofs.Service.References
import MetricLayer.Proofs.Service.Removal
import MetricLayer.Proofs.Service.StoredMetrics
import MetricLayer.Proofs.Sql.Admission
import MetricLayer.Proofs.Sql.CellLiteral
import MetricLayer.Proofs.Sql.Clause
import MetricLayer.Proofs.Sql.CommaList
import MetricLayer.Proofs.Sql.CommentMark
import MetricLayer.Proofs.Sql.FilterOrder
import MetricLayer.Proofs.Sql.FilterText
import MetricLayer.Proofs.Sql.FormulaLexemes
import MetricLayer.Proofs.Sql.FormulaText
import MetricLayer.Proofs.Sql.Insertion
import MetricLayer.Proofs.Sql.ItemText
import MetricLayer.Proofs.Sql.Lexeme
import MetricLayer.Proofs.Sql.LexemePlace
import MetricLayer.Proofs.Sql.Lexing
import MetricLayer.Proofs.Sql.LikePattern
import MetricLayer.Proofs.Sql.ListFilter
import MetricLayer.Proofs.Sql.LiteralText
import MetricLayer.Proofs.Sql.MetricText
import MetricLayer.Proofs.Sql.Numerals
import MetricLayer.Proofs.Sql.OutputNames
import MetricLayer.Proofs.Sql.PeriodQuery
import MetricLayer.Proofs.Sql.PeriodText
import MetricLayer.Proofs.Sql.QueryReading
import MetricLayer.Proofs.Sql.QueryText
import MetricLayer.Proofs.Sql.Quotation
import MetricLayer.Proofs.Sql.Restriction
import MetricLayer.Proofs.Sql.RowReading
import MetricLayer.Proofs.Sql.Scan
import MetricLayer.Proofs.Sql.ScriptNumerals
import MetricLayer.Proofs.Sql.SearchCondition
import MetricLayer.Proofs.Sql.SelectList
import MetricLayer.Proofs.Sql.SelectReading
import MetricLayer.Proofs.Sql.Spelling
import MetricLayer.Proofs.Sql.TableDefinition
import MetricLayer.Proofs.Sql.Term
import MetricLayer.Proofs.Sql.Writable
import MetricLayer.Proofs.Text.Enclosed
import MetricLayer.Proofs.Text.Occurrences
import MetricLayer.Proofs.Value.AsJson
import MetricLayer.Proofs.Value.Canonical
import MetricLayer.Proofs.Value.Display
import MetricLayer.Proofs.Value.JsonText
import MetricLayer.Proofs.Warehouse.Contents
import MetricLayer.Proofs.Warehouse.KeptColumns
import MetricLayer.Proofs.Warehouse.Layout
import MetricLayer.Service.Loading
import MetricLayer.Service.Metrics
import MetricLayer.Service.World
import MetricLayer.Settings
import MetricLayer.Sql.Condition
import MetricLayer.Sql.Formula
import MetricLayer.Sql.Literal
import MetricLayer.Sql.MetricQuery
import MetricLayer.Sql.Select
import MetricLayer.Sql.TableStatement
import MetricLayer.Text.Blank
import MetricLayer.Text.CharRanges
import MetricLayer.Text.Digit
import MetricLayer.Text.PercentDecoded
import MetricLayer.Text.Printable
import MetricLayer.Text.Quoted
import MetricLayer.Text.Search
import MetricLayer.Text.Uppercase
import MetricLayer.Value
import MetricLayer.Value.Canonical
import MetricLayer.Value.Display
import MetricLayer.Warehouse
import MetricLayer.Warehouse.Change
import MetricLayer.Warehouse.ResultSet
