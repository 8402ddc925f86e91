import ObjectMetrics.Adapter.Basic
import ObjectMetrics.Adapter.Metrics
import ObjectMetrics.Adapter.Schedule
import ObjectMetrics.Adapter.Together
import ObjectMetrics.Catalog.Basic
import ObjectMetrics.Catalog.Build
import ObjectMetrics.Catalog.Mapping
import ObjectMetrics.Catalog.Singular
import ObjectMetrics.Cluster.Address
import ObjectMetrics.Cluster.Discovery
import ObjectMetrics.Cluster.Listing
import ObjectMetrics.Discovery
import ObjectMetrics.External
import ObjectMetrics.Fault
import ObjectMetrics.Health
import ObjectMetrics.Http.Request
import ObjectMetrics.Http.Response
import ObjectMetrics.Http.Router
import ObjectMetrics.Ingestion.Order
import ObjectMetrics.Ingestion.Quantity
import ObjectMetrics.Ingestion.Target
import ObjectMetrics.Instant
import ObjectMetrics.Inventory
import ObjectMetrics.Json.Number
import ObjectMetrics.Json.Reading
import ObjectMetrics.Json.Text
import ObjectMetrics.Json.Token
import ObjectMetrics.Json.Value
import ObjectMetrics.Label.Name
import ObjectMetrics.Label.Reading
import ObjectMetrics.Label.Selector
import ObjectMetrics.Label.Set
import ObjectMetrics.Label.Token
import ObjectMetrics.Main
import ObjectMetrics.Number.Decimal
import ObjectMetrics.Number.Digits
import ObjectMetrics.Number.Shortest
import ObjectMetrics.Order.Keyed
import ObjectMetrics.Order.Sorted
import ObjectMetrics.Registry.Basic
import ObjectMetrics.Registry.Flight
import ObjectMetrics.Resource
import ObjectMetrics.Settings.Basic
import ObjectMetrics.Settings.Environment
import ObjectMetrics.Settings.Path
import ObjectMetrics.Settings.Tree
import ObjectMetrics.Settings.Value
import ObjectMetrics.Store
import ObjectMetrics.Telemetry
import ObjectMetrics.Text.Case
import ObjectMetrics.Text.Percent
import ObjectMetrics.Text.Quoted
import ObjectMetrics.Text.Split
import ObjectMetrics.Text.Utf8
import ObjectMetrics.Wire.Reading
import ObjectMetrics.Wire.Writing
import ObjectMetrics.Proofs.Number.Numeral
import ObjectMetrics.Proofs.Order.Stable
import ObjectMetrics.Proofs.Selector.Grammar
import ObjectMetrics.Proofs.Selector.Names
import ObjectMetrics.Proofs.Selector.Reading
import ObjectMetrics.Proofs.Selector.Printing
import ObjectMetrics.Proofs.Catalog.Names
import ObjectMetrics.Proofs.Catalog.Resolution
import ObjectMetrics.Proofs.Catalog.Normalization
import ObjectMetrics.Proofs.Catalog.Kinds
import ObjectMetrics.Proofs.Catalog.Spelling
import ObjectMetrics.Proofs.Catalog.Listing
import ObjectMetrics.Proofs.Catalog.Reordering
import ObjectMetrics.Proofs.Catalog.Meanings
import ObjectMetrics.Proofs.Registry.Flight
import ObjectMetrics.Proofs.Registry.SingleFlight
import ObjectMetrics.Proofs.Adapter.Operation
import ObjectMetrics.Proofs.Adapter.Publication
import ObjectMetrics.Proofs.Adapter.Retry
import ObjectMetrics.Proofs.Adapter.LastWrite
import ObjectMetrics.Proofs.Adapter.Selection
import ObjectMetrics.Proofs.Adapter.Readiness
import ObjectMetrics.Proofs.Ingestion.Target
import ObjectMetrics.Proofs.Ingestion.Spelling
import ObjectMetrics.Proofs.Http.Posting
import ObjectMetrics.Proofs.Catalog.Growth
import ObjectMetrics.Proofs.Catalog.Reports
import ObjectMetrics.Proofs.Catalog.Versions
import ObjectMetrics.Proofs.Adapter.Description
import ObjectMetrics.Proofs.Adapter.Health
import ObjectMetrics.Proofs.Text.Form
import ObjectMetrics.Proofs.Cluster.Listing
import ObjectMetrics.Proofs.Label.Reading
import ObjectMetrics.Proofs.Selector.Joining
import ObjectMetrics.Proofs.Selector.Bounds
import ObjectMetrics.Proofs.Adapter.Inventory
import ObjectMetrics.Proofs.External.Serving
import ObjectMetrics.Proofs.Ingestion.Forms
import ObjectMetrics.Proofs.Ingestion.Quantity
import ObjectMetrics.Proofs.Selector.Layout
import ObjectMetrics.Proofs.Selector.Clauses
import ObjectMetrics.Proofs.Selector.Taking
import ObjectMetrics.Proofs.Catalog.Singular
import ObjectMetrics.Proofs.Settings.Preference
import ObjectMetrics.Proofs.Resource.Text
