import MadeToOrder.Availability
import MadeToOrder.Bundled
import MadeToOrder.Catalog.Assembly
import MadeToOrder.Catalog.Connection
import MadeToOrder.Catalog.File
import MadeToOrder.Catalog.Record
import MadeToOrder.Catalog.Remote
import MadeToOrder.Catalog.Snapshot
import MadeToOrder.Catalog.Store
import MadeToOrder.Catalog.Supply
import MadeToOrder.Condition
import MadeToOrder.Condition.Evaluation
import MadeToOrder.Condition.Reading
import MadeToOrder.Configuration
import MadeToOrder.Diagnostic
import MadeToOrder.Event
import MadeToOrder.Fault
import MadeToOrder.FieldTable
import MadeToOrder.FieldTable.Row
import MadeToOrder.IdSet
import MadeToOrder.Json.Encoding
import MadeToOrder.Json.Reader
import MadeToOrder.Json.Writer
import MadeToOrder.Keyed
import MadeToOrder.Number.Double
import MadeToOrder.Number.Numeral
import MadeToOrder.Number.Setting
import MadeToOrder.Number.Shortest
import MadeToOrder.Proofs.Availability.Alike
import MadeToOrder.Proofs.Availability.Isolation
import MadeToOrder.Proofs.Availability.Matching
import MadeToOrder.Proofs.Availability.Narrowing
import MadeToOrder.Proofs.Availability.Partition
import MadeToOrder.Proofs.Availability.Trigger
import MadeToOrder.Proofs.Catalog.Alike
import MadeToOrder.Proofs.Catalog.Assembled
import MadeToOrder.Proofs.Catalog.Defaults
import MadeToOrder.Proofs.Catalog.Display
import MadeToOrder.Proofs.Catalog.FailFast
import MadeToOrder.Proofs.Catalog.FailedRefresh
import MadeToOrder.Proofs.Catalog.Faults
import MadeToOrder.Proofs.Catalog.Filed
import MadeToOrder.Proofs.Catalog.LastWrite
import MadeToOrder.Proofs.Catalog.Naming
import MadeToOrder.Proofs.Catalog.Paging
import MadeToOrder.Proofs.Catalog.Reading
import MadeToOrder.Proofs.Catalog.Serving
import MadeToOrder.Proofs.Catalog.Shuffled
import MadeToOrder.Proofs.Catalog.Tabled
import MadeToOrder.Proofs.Condition.Meaning
import MadeToOrder.Proofs.Condition.Opposites
import MadeToOrder.Proofs.Condition.Range
import MadeToOrder.Proofs.Condition.Sameness
import MadeToOrder.Proofs.Configuration.Adjusting
import MadeToOrder.Proofs.Configuration.Alike
import MadeToOrder.Proofs.Configuration.Candidates
import MadeToOrder.Proofs.Configuration.DomainFaults
import MadeToOrder.Proofs.Configuration.Faults
import MadeToOrder.Proofs.Configuration.FixedPoint
import MadeToOrder.Proofs.Configuration.Reordered
import MadeToOrder.Proofs.Configuration.Replay
import MadeToOrder.Proofs.Configuration.RowOrder
import MadeToOrder.Proofs.Configuration.WhereSet
import MadeToOrder.Proofs.FieldTable.Lookup
import MadeToOrder.Proofs.Number.Spelling
import MadeToOrder.Proofs.Rule.Context
import MadeToOrder.Proofs.Rule.Defects
import MadeToOrder.Proofs.Rule.Extending
import MadeToOrder.Proofs.Rule.Flattening
import MadeToOrder.Proofs.Rule.Merging
import MadeToOrder.Proofs.Rule.Precompiled
import MadeToOrder.Proofs.Rule.Ranking
import MadeToOrder.Proofs.Rule.Rearranging
import MadeToOrder.Proofs.Selection.Normal
import MadeToOrder.Proofs.Selection.Reordered
import MadeToOrder.Proofs.Selection.WhereSet
import MadeToOrder.Proofs.Service.Options
import MadeToOrder.Proofs.Service.Reply
import MadeToOrder.Proofs.Session.Failure
import MadeToOrder.Proofs.Session.FirstOptions
import MadeToOrder.Proofs.Session.Loading
import MadeToOrder.Proofs.Session.Subscriptions
import MadeToOrder.Proofs.Sku.Alike
import MadeToOrder.Proofs.Sku.Canonical
import MadeToOrder.Proofs.Sku.Faults
import MadeToOrder.Proofs.Sku.Grading
import MadeToOrder.Proofs.Sku.Matching
import MadeToOrder.Proofs.Sku.Ordering
import MadeToOrder.Proofs.Sku.Precedence
import MadeToOrder.Proofs.Sku.Reading
import MadeToOrder.Proofs.Sku.Recovery
import MadeToOrder.Proofs.Sku.RoundTrip
import MadeToOrder.Proofs.Sku.Stopping
import MadeToOrder.Proofs.Sku.Suggesting
import MadeToOrder.Proofs.Sku.Tolerance
import MadeToOrder.Proofs.Sku.Writing
import MadeToOrder.Proofs.Text.Editing
import MadeToOrder.Proofs.Text.Splitting
import MadeToOrder.Proofs.Traversal
import MadeToOrder.Report
import MadeToOrder.Rule
import MadeToOrder.Rule.Actions
import MadeToOrder.Rule.Compiled
import MadeToOrder.Rule.Defect
import MadeToOrder.Rule.Outcome
import MadeToOrder.Rule.Situation
import MadeToOrder.Selection
import MadeToOrder.Service
import MadeToOrder.Service.Reply
import MadeToOrder.Service.Request
import MadeToOrder.Service.Route
import MadeToOrder.Session
import MadeToOrder.Session.Registry
import MadeToOrder.Sku.Build
import MadeToOrder.Sku.FieldOrder
import MadeToOrder.Sku.Parse
import MadeToOrder.Sku.Suggestion
import MadeToOrder.Sorting
import MadeToOrder.Tenant
import MadeToOrder.Tenant.Directory
import MadeToOrder.Text.Base64
import MadeToOrder.Text.Blank
import MadeToOrder.Text.Case
import MadeToOrder.Text.Composition
import MadeToOrder.Text.Digit
import MadeToOrder.Text.Hexadecimal
import MadeToOrder.Text.LowerCase
import MadeToOrder.Text.Mark
import MadeToOrder.Text.Percent
import MadeToOrder.Text.Printable
import MadeToOrder.Text.Punycode
import MadeToOrder.Text.Quoted
import MadeToOrder.Text.Ranges
import MadeToOrder.Text.Search
import MadeToOrder.Text.Symbol
import MadeToOrder.Text.TitleCase
import MadeToOrder.Text.Utf8
import MadeToOrder.Url
import MadeToOrder.Url.Host
import MadeToOrder.Value
import MadeToOrder.Value.Access
import MadeToOrder.Value.Agreement
import MadeToOrder.Value.Reading
import MadeToOrder.Value.Rendering
