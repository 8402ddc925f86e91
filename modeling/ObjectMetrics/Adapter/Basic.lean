import ObjectMetrics.Catalog.Basic
import ObjectMetrics.Catalog.Singular
import ObjectMetrics.Discovery
import ObjectMetrics.External
import ObjectMetrics.Health
import ObjectMetrics.Inventory
import ObjectMetrics.Registry.Basic
import ObjectMetrics.Telemetry
/-!
The adapter: its settings, the sources it calls, and what it holds. Operations take the adapter and
give back a result with the adapter after it; the adapter changes even where the result is a fault.
-/
namespace ObjectMetrics

structure AdapterSettings where
  name : String
  inflection : Inflection
  /-- Groups that win, in order, where a resource name leaves the group open. -/
  preferredGroups : List String
  retryOnMiss : Bool
  ingestion : Bool
  external : ExternalIndex
deriving DecidableEq

structure Adapter where
  settings : AdapterSettings
  clock : Instant
  discovery : DiscoverySource
  inventory : Inventory
  registry : Registry
  store : Store
  health : HealthBoard
  telemetry : Telemetry

namespace Adapter

def start (settings : AdapterSettings) (clock : Instant) (discovery : DiscoverySource) : Adapter where
  settings
  clock
  discovery
  inventory := .empty
  registry := .empty
  store := .empty
  health := .empty
  telemetry := .empty

def catalog (a : Adapter) : Catalog := a.registry.catalog

def noteListing (a : Adapter) (p : Registry.Publication) : Adapter :=
  let telemetry := a.telemetry.log (p.warnings.map .catalog)
  { a with
    discovery := a.discovery.called
    telemetry := match p.outcome with
      | .error fault => telemetry.reportFailure fault
      | .ok _ => telemetry }

def regenerate (a : Adapter) : Outcome × Adapter :=
  let p := a.registry.publish a.settings.inflection.singular a.discovery.listing
  (p.outcome, { a.noteListing p with registry := p.registry.conclude p.outcome })

def normalizeNow (a : Adapter) (request : MetricRequest) : Except Fault Normalized :=
  a.catalog.normalize a.settings.preferredGroups request

/-- Normalize a request; if its resource is unknown, regenerate once and try again. -/
def normalize (a : Adapter) (request : MetricRequest) : Except Fault Normalized × Adapter :=
  match a.normalizeNow request with
  | .ok n => (.ok n, a)
  | .error fault =>
    if fault.isNotFound && a.settings.retryOnMiss then
      match a.regenerate with
      | (.error failed, a) => (.error failed, a)
      | (.ok _, a) => (a.normalizeNow request, a)
    else (.error fault, a)

end Adapter
end ObjectMetrics
