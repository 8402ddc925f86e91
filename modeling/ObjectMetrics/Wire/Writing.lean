import ObjectMetrics.Health
import ObjectMetrics.Http.Response
import ObjectMetrics.Json.Value
/-!
The JSON forms in which the adapter's values are sent. Members that would say nothing are left out.
How a binary64 value is written is a parameter, since JSON has no form for all of them.
-/
namespace ObjectMetrics.Wire

def optional (name : String) : Option String → List (String × Json)
  | some s => [(name, .text s)]
  | none => []

def labels (l : LabelSet) : Json := .object (l.entries.map fun e => (e.1, .text e.2))

def groupResource (gr : GroupResource) : Json :=
  .object [("group", .text gr.group), ("resource", .text gr.resource)]

def resourceReference (ref : ResourceReference) : Json :=
  .object [("group", .text ref.group), ("version", .text ref.version),
    ("resource", .text ref.resource)]

def groupKind (gk : GroupKind) : Json :=
  .object [("group", .text gk.group), ("kind", .text gk.kind)]

def groupVersionKind (gvk : GroupVersionKind) : Json :=
  .object [("group", .text gvk.group), ("version", .text gvk.version), ("kind", .text gvk.kind)]

def scope (s : Scope) : Json := .text s.text

def objectKey (key : ObjectKey) : Json :=
  .object [("namespace", .text key.ns), ("name", .text key.name)]

def metricRequest (r : MetricRequest) : Json :=
  .object [("group_resource", groupResource r.resource), ("namespaced", .bool r.namespaced),
    ("metric", .text r.metric)]

def metricIdentity (i : MetricIdentity) : Json := metricRequest i.request

def resourceReport (r : ResourceReport) : Json :=
  .object ([("group", .text r.group), ("version", .text r.version), ("resource", .text r.resource),
    ("namespaced", .bool r.namespaced), ("kind", .text r.kind)] ++ optional "singular" r.singular)

def mapping (m : Mapping) : Json :=
  .object [("group", .text m.group), ("version", .text m.version),
    ("versions", .list (m.versions.map .text)), ("resource", .text m.plural),
    ("singular", .text m.singular), ("kind", .text m.kind), ("scope", scope m.scope)]

def status (s : ComponentStatus) : Json := .text s.text

def componentHealth (h : ComponentHealth) : Json :=
  .object (("status", status h.status) :: optional "message" h.message)

def componentReport (r : ComponentReport) : Json :=
  .object (("status", status r.health.status) :: optional "message" r.health.message ++
    [("last_check_timestamp", .int r.checkedAt)])

def healthReport (r : HealthReport) : Json :=
  .object [("status", status r.status),
    ("components", .object (r.components.map fun c => (c.1, componentReport c.2)))]

def readinessReport (r : ReadinessReport) : Json :=
  .object (("ready", .bool r.ready) :: optional "reason" r.reason)

def health (b : HealthBoard) : Json :=
  .object [("status", status b.status),
    ("components", .object (b.components.map fun c => (c.1, componentHealth c.2)))]

def readiness (b : HealthBoard) : Json := readinessReport b.readiness

section Measured

variable (number : Float → Json)

def metricRecord (r : MetricRecord) : Json :=
  .object [("identity", metricIdentity r.identity), ("coordinate", objectKey r.key),
    ("value", number r.value), ("labels", labels r.labels), ("timestamp", .text r.timestamp.text)]

def objectReference (o : ObjectReference) : Json :=
  .object ([("kind", .text o.kind), ("apiVersion", .text o.apiVersion)] ++
    optional "namespace" (if o.key.ns = "" then none else some o.key.ns) ++
    [("name", .text o.key.name)])

def metricValue (v : MetricValue) : Json :=
  .object ([("describedObject", objectReference v.object), ("metric", .text v.metric)] ++
    optional "selector" v.selector ++
    [("timestamp", .text v.timestamp.text), ("value", number v.value)])

def externalEntry (e : ExternalEntry) : Json :=
  .object [("name", .text e.name), ("labels", labels e.labels), ("value", number e.value)]

def externalSample (s : ExternalSample) : Json :=
  .object [("name", .text s.name), ("labels", labels s.labels), ("value", number s.value),
    ("timestamp", .text s.timestamp.text)]

def externalValue (s : ExternalSample) : Json :=
  .object [("metricName", .text s.name), ("metricLabels", labels s.labels),
    ("timestamp", .text s.timestamp.text), ("value", number s.value)]

def fieldValue : FieldValue → Json
  | .text s => .text s
  | .float x => number x

def logEvent (e : LogEvent) : Json :=
  .object (Order.distinct Prod.fst
    (e.fields.map (fun f => (f.1, fieldValue number f.2)) ++
      [("level", .text e.level), ("message", .text e.message)]))

def responseBody : ResponseBody → Json
  | .empty => .text ""
  | .text s => .text s
  | .refusal r => .object [("error", .text r.message), ("class", .text r.kind)]
  | .record r => metricRecord number r
  | .health b => health b
  | .readiness b => readiness b

end Measured
end ObjectMetrics.Wire
