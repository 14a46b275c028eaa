import DataModel.Fault
import DataModel.Handle
import DataModel.Proofs.Record
import DataModel.Query.Descriptor.Json
import DataModel.Settings
import DataModel.Sql.Rows
import DataModel.Sql.Tables
import DataModel.Value.Path
import DataModel.Proofs.Key
import DataModel.Proofs.Filter
import DataModel.Proofs.Reading
import DataModel.Proofs.Resolution
import DataModel.Proofs.Storage
import DataModel.Proofs.Decoration
import DataModel.Proofs.Narrowing
import DataModel.Proofs.Batching
import DataModel.Proofs.PivotJoin
import DataModel.Proofs.Provenance
import DataModel.Proofs.Operation
import DataModel.Proofs.SoftDelete
import DataModel.Proofs.Sample
import DataModel.Proofs.Nesting
import DataModel.Proofs.Token
import DataModel.Proofs.Expression
import DataModel.Proofs.WhereClause
import DataModel.Proofs.Predicate
import DataModel.Proofs.Comparison
import DataModel.Proofs.Constraints
import DataModel.Proofs.Paging
import DataModel.Proofs.Integrity
import DataModel.Proofs.Atomicity
import DataModel.Proofs.Freshness
import DataModel.Proofs.Layout
import DataModel.Proofs.Acceptance
import DataModel.Proofs.Defaults
import DataModel.Proofs.Alignment
import DataModel.Proofs.Rejection
import DataModel.Proofs.Vocabulary
import DataModel.Proofs.RoundTrip
import DataModel.Proofs.Quotation
import DataModel.Proofs.Placeholder
import DataModel.Proofs.WellFormed
import DataModel.Proofs.Exchange
import DataModel.Proofs.Wildcard
import DataModel.Proofs.ChildOrder
import DataModel.Proofs.Lookup
import DataModel.Proofs.Publication
import DataModel.Proofs.Rewriting
import DataModel.Proofs.Removal
import DataModel.Proofs.Selection
import DataModel.Proofs.Rounding
import DataModel.Proofs.Ranking
import DataModel.Proofs.Trichotomy
import DataModel.Proofs.OrderClause
import DataModel.Proofs.KeyOrder
import DataModel.Proofs.Report
import DataModel.Proofs.Agreement
import DataModel.Proofs.Indicators
import DataModel.Proofs.UndeclaredKey
import DataModel.Proofs.Series
import DataModel.Proofs.Moment
import DataModel.Proofs.HashText
import DataModel.Proofs.Fitting
import DataModel.Proofs.Descent
import DataModel.Proofs.Directory
import DataModel.Proofs.Conversion
import DataModel.Proofs.Matching
