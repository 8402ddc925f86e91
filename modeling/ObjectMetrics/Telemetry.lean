import ObjectMetrics.Catalog.Basic
import ObjectMetrics.Store
/-!
What the adapter tells about itself: events for the log, and counters and gauges for the metrics
endpoint. Counters only grow; gauges show the state at their last setting.
-/
namespace ObjectMetrics

/-- Something worth a line in the log. Events of one running adapter carry its name. -/
inductive LogEvent where
  | catalog (warning : CatalogWarning)
  | regenerationFailed (fault : Fault)
  | started (adapter version message : String)
  | stopped (adapter reason : String)
  | regenerated (adapter : String) (generation resources : Nat)
  | written (adapter : String) (record : MetricRecord)
deriving DecidableEq

inductive FieldValue where
  | text (s : String)
  | float (x : Float)
deriving DecidableEq

namespace LogEvent

def isWarning : LogEvent → Bool
  | catalog _ | regenerationFailed _ => true
  | _ => false

def level (e : LogEvent) : String := if e.isWarning then "WARN" else "INFO"

def message : LogEvent → String
  | catalog (.conflictingReport ..) =>
    "Conflicting kind or scope for resource, keeping the preferred version"
  | catalog (.kindTaken ..) => "Kind already served by another resource"
  | catalog (.aliasWithheld ..) =>
    "Singular name is not unique in its group, withholding alias"
  | regenerationFailed _ => "Resource mapping regeneration failed, keeping previous snapshot"
  | started _ _ message => message
  | stopped .. => "Metrics adapter shutting down"
  | regenerated .. => "Resource mappings regenerated"
  | written .. => "Metric value recorded"

def fields : LogEvent → List (String × FieldValue)
  | catalog (.conflictingReport resource version kind existingKind) =>
    [("resource", .text resource.text), ("version", .text version), ("kind", .text kind),
      ("existing_kind", .text existingKind)]
  | catalog (.kindTaken kind resource owner) =>
    [("kind", .text kind), ("resource", .text resource.text), ("owner", .text owner.text)]
  | catalog (.aliasWithheld group singular owners) =>
    [("group", .text group), ("singular", .text singular), ("owners", .text (toString owners))]
  | regenerationFailed fault =>
    [("error", .text fault.message), ("class", .text fault.faultClass.text)]
  | started adapter version _ =>
    [("event", .text "adapter_started"), ("instance", .text adapter),
      ("adapter_version", .text version)]
  | stopped adapter reason =>
    [("event", .text "adapter_shutdown"), ("instance", .text adapter), ("reason", .text reason)]
  | regenerated adapter generation resources =>
    [("event", .text "mapping_regenerated"), ("instance", .text adapter),
      ("generation", .text (toString generation)), ("resources", .text (toString resources))]
  | written adapter r =>
    [("event", .text "metric_written"), ("instance", .text adapter),
      ("metric", .text r.identity.text), ("object", .text r.key.text), ("value", .float r.value),
      ("labels", .text r.labels.text)]

end LogEvent

structure Telemetry where
  regenerations : Nat
  regenerationErrors : Nat
  metricWrites : Nat
  catalogGeneration : Nat
  mappedResources : Nat
  storedRecords : Nat
  events : List LogEvent
deriving DecidableEq

namespace Telemetry

def empty : Telemetry := ⟨0, 0, 0, 0, 0, 0, []⟩

instance : Inhabited Telemetry := ⟨empty⟩

def log (t : Telemetry) (events : List LogEvent) : Telemetry :=
  { t with events := t.events ++ events }

def reportFailure (t : Telemetry) (fault : Fault) : Telemetry :=
  { t.log [.regenerationFailed fault] with regenerationErrors := t.regenerationErrors + 1 }

def countWrite (t : Telemetry) (stored : Nat) : Telemetry :=
  { t with metricWrites := t.metricWrites + 1, storedRecords := stored }

def observeRegeneration (t : Telemetry) : Telemetry :=
  { t with regenerations := t.regenerations + 1 }

def showCatalog (t : Telemetry) (c : Catalog) : Telemetry :=
  { t with catalogGeneration := c.generation, mappedResources := c.size }

def drain (t : Telemetry) : List LogEvent × Telemetry := (t.events, { t with events := [] })

end Telemetry

inductive FamilyKind where
  | counter
  | gauge
  | histogram (bounds : List String)
deriving DecidableEq, Repr

def FamilyKind.text : FamilyKind → String
  | counter => "counter"
  | gauge => "gauge"
  | histogram _ => "histogram"

/-- One family of metrics at the metrics endpoint. A histogram's value is its count. -/
structure MetricFamily where
  name : String
  help : String
  kind : FamilyKind
  value : Nat
deriving DecidableEq, Repr

namespace MetricFamily

def header (f : MetricFamily) : List String :=
  [s!"# HELP {f.name} {f.help}", s!"# TYPE {f.name} {f.kind.text}"]

def bounds (f : MetricFamily) : List String :=
  match f.kind with
  | .histogram bounds => bounds ++ ["+Inf"]
  | _ => []

def lines (f : MetricFamily) : List String :=
  match f.kind with
  | .histogram _ => f.header ++ [s!"{f.name}_count {f.value}"]
  | _ => f.header ++ [s!"{f.name} {f.value}"]

end MetricFamily

def regenerationBounds : List String :=
  ["0.005", "0.01", "0.025", "0.05", "0.1", "0.25", "0.5", "1", "2.5", "5", "10", "30"]

def Telemetry.families (t : Telemetry) : List MetricFamily :=
  [⟨"metrics_adapter_mapped_resources", "Number of resources in the published mapping snapshot",
      .gauge, t.mappedResources⟩,
    ⟨"metrics_adapter_metric_writes_total",
      "Total number of metric values written through ingestion", .counter, t.metricWrites⟩,
    ⟨"metrics_adapter_regeneration_errors_total",
      "Total number of failed resource mapping regenerations", .counter, t.regenerationErrors⟩,
    ⟨"metrics_adapter_regeneration_latency_seconds",
      "Time spent regenerating resource mappings from discovery",
      .histogram regenerationBounds, t.regenerations⟩,
    ⟨"metrics_adapter_snapshot_generation",
      "Generation of the published resource mapping snapshot", .gauge, t.catalogGeneration⟩,
    ⟨"metrics_adapter_stored_records", "Number of metric records held in memory", .gauge,
      t.storedRecords⟩]

def Telemetry.exposition (t : Telemetry) : String :=
  String.join (t.families.flatMap fun f => f.lines.map fun line => line ++ "\n")

end ObjectMetrics
