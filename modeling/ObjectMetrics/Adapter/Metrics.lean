import ObjectMetrics.Adapter.Basic
/-!
Writing and reading metric values. Requests are normalized first, which may regenerate the catalog
once; the store is asked under the identity that comes out, and what it answers is described by the
kind that the catalog has for the resource.
-/
namespace ObjectMetrics

structure ObjectReference where
  kind : String
  apiVersion : String
  key : ObjectKey
deriving DecidableEq, Repr

structure MetricValue where
  object : ObjectReference
  metric : String
  /-- The text of the query's metric selector, if it asks for anything. -/
  selector : Option String
  timestamp : Instant
  value : Float
deriving DecidableEq

namespace Adapter

def record (a : Adapter) (r : MetricRecord) : Adapter := { a with store := a.store.upsert r }

def write (a : Adapter) (request : MetricRequest) (key : ObjectKey) (value : Float)
    (labels : LabelSet) : Except Fault MetricRecord × Adapter :=
  match a.normalize request with
  | (.error fault, a) => (.error fault, a)
  | (.ok n, a) =>
    let r : MetricRecord := ⟨n.identity, key, value, labels, a.clock⟩
    let a := a.record r
    (.ok r, { a with telemetry := a.telemetry.countWrite a.store.size })

def describe (a : Adapter) (selector : Selector) (r : MetricRecord) : Except Fault MetricValue :=
  (a.catalog.kindOf a.settings.preferredGroups r.identity.resource.anyVersion).map fun gvk =>
    { object := ⟨gvk.kind, gvk.apiVersion, r.key⟩
      metric := r.identity.metric
      selector := if selector.isEverything then none else some selector.text
      timestamp := r.timestamp
      value := r.value }

def get (a : Adapter) (request : MetricRequest) (key : ObjectKey) (selector : Selector) :
    Except Fault MetricValue × Adapter :=
  match a.normalize request with
  | (.error fault, a) => (.error fault, a)
  | (.ok n, a) => ((a.store.lookup n.identity key selector).bind (a.describe selector), a)

/-- The records of the objects of a namespace that satisfy a selector; objects without a value are
left out. -/
def recordsWhere (a : Adapter) (i : MetricIdentity) (ns : String) (objects selector : Selector) :
    Except Fault (List MetricRecord) × Adapter :=
  let (listed, inventory) := a.inventory.list i.resource ns objects
  (a.store.select i ns selector listed, { a with inventory })

def valuesOf (a : Adapter) (i : MetricIdentity) (ns : String) (selector : Selector)
    (listed : Except Failure (List String)) : Except Fault (List MetricValue) :=
  (a.store.select i ns selector listed).bind (·.mapM (a.describe selector))

def select (a : Adapter) (request : MetricRequest) (ns : String) (objects selector : Selector) :
    Except Fault (List MetricValue) × Adapter :=
  match a.normalize request with
  | (.error fault, a) => (.error fault, a)
  | (.ok n, a) =>
    let (listed, inventory) := a.inventory.list n.identity.resource ns objects
    (a.valuesOf n.identity ns selector listed, { a with inventory })

def metrics (a : Adapter) : List MetricIdentity := a.store.identities

def external (a : Adapter) (name : String) (selector : Selector) : List ExternalSample :=
  a.settings.external.query a.clock name selector

def externalNames (a : Adapter) : List String := a.settings.external.names

end Adapter

/-- What a provider without any metric answers for one object; every list that it is asked for is
empty. -/
def noMetric (request : MetricRequest) (key : ObjectKey) : Fault :=
  .metricNotFound request.resource request.metric key.name

end ObjectMetrics
