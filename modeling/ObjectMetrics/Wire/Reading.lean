import ObjectMetrics.Catalog.Mapping
import ObjectMetrics.External
import ObjectMetrics.Health
import ObjectMetrics.Json.Value
import ObjectMetrics.Number.Digits
/-!
Reading the JSON forms of values. A record is an object that has its fields, among others perhaps, or
a list of its fields in their order. A field that may be missing may also be null.
-/
namespace ObjectMetrics.Wire

/-- The members of an object by name; of several with one name the last counts. -/
def members? : Json → Option (List (String × Json))
  | .object ms => some (Order.distinct Prod.fst ms)
  | _ => none

/-- The fields of a record. A list may end before its last `omittable` fields. -/
def fields? (names : List String) (omittable : Nat) (j : Json) : Option (List (Option Json)) :=
  match j with
  | .object _ => some (names.map fun name => j.member? name)
  | .list vs =>
    if vs.length ≤ names.length && names.length ≤ vs.length + omittable then
      some (vs.map some ++ List.replicate (names.length - vs.length) none)
    else none
  | _ => none

def text? : Json → Option String
  | .text s => some s
  | _ => none

def flag? : Json → Option Bool
  | .bool b => some b
  | _ => none

def real? : Json → Option Float
  | .number n => some n.toFloat
  | _ => none

def int64? : Json → Option Int
  | .number (.integer n) => if Number.IsInt64 n then some n else none
  | _ => none

def optional? {α : Type} (read : Json → Option α) : Option Json → Option (Option α)
  | none | some .null => some none
  | some j => (read j).map some

def table? {α : Type} (read : Json → Option α) (j : Json) : Option (List (String × α)) := do
  (← members? j).mapM fun m => (read m.2).map fun a => (m.1, a)

def labels? (j : Json) : Option LabelSet := (table? text? j).map LabelSet.ofList

/-- One of some words: a string, or an object whose only member has the word as its name. -/
def word? {α : Type} (read : String → Option α) (j : Json) : Option α :=
  match j with
  | .text s => read s
  | _ =>
    match members? j with
    | some [(s, .null)] => read s
    | _ => none

def named? {α : Type} (text : α → String) (values : List α) (s : String) : Option α :=
  values.find? fun a => text a = s

def scope? : Json → Option Scope := word? (named? Scope.text [.namespaced, .cluster])

def status? : Json → Option ComponentStatus :=
  word? (named? ComponentStatus.text [.healthy, .degraded, .unhealthy])

def groupResource? (j : Json) : Option GroupResource := do
  let [group, resource] ← fields? ["group", "resource"] 0 j | none
  return ⟨← group.bind text?, ← resource.bind text?⟩

def resourceReference? (j : Json) : Option ResourceReference := do
  let [group, version, resource] ← fields? ["group", "version", "resource"] 0 j | none
  return ⟨← group.bind text?, ← version.bind text?, ← resource.bind text?⟩

def groupKind? (j : Json) : Option GroupKind := do
  let [group, kind] ← fields? ["group", "kind"] 0 j | none
  return ⟨← group.bind text?, ← kind.bind text?⟩

def groupVersionKind? (j : Json) : Option GroupVersionKind := do
  let [group, version, kind] ← fields? ["group", "version", "kind"] 0 j | none
  return ⟨← group.bind text?, ← version.bind text?, ← kind.bind text?⟩

def objectKey? (j : Json) : Option ObjectKey := do
  let [ns, name] ← fields? ["namespace", "name"] 0 j | none
  return ⟨← ns.bind text?, ← name.bind text?⟩

def metricRequest? (j : Json) : Option MetricRequest := do
  let [resource, namespaced, metric] ← fields? ["group_resource", "namespaced", "metric"] 0 j | none
  return ⟨← resource.bind groupResource?, ← namespaced.bind flag?, ← metric.bind text?⟩

def resourceReport? (j : Json) : Option ResourceReport := do
  let [group, version, resource, namespaced, kind, singular] ←
    fields? ["group", "version", "resource", "namespaced", "kind", "singular"] 1 j | none
  return ⟨← group.bind text?, ← version.bind text?, ← resource.bind text?,
    ← namespaced.bind flag?, ← kind.bind text?, ← optional? text? singular⟩

/-- An entry of the external index. Its labels may be missing, but they may not be null. -/
def externalEntry? (j : Json) : Option ExternalEntry := do
  let [name, labels, value] ← fields? ["name", "labels", "value"] 0 j | none
  let labels ← match labels with
    | none => some .empty
    | some l => labels? l
  return ⟨← name.bind text?, labels, ← value.bind real?⟩

def componentReport? (j : Json) : Option ComponentReport := do
  let [status, message, checkedAt] ←
    fields? ["status", "message", "last_check_timestamp"] 0 j | none
  return ⟨⟨← status.bind status?, ← optional? text? message⟩, ← checkedAt.bind int64?⟩

def healthReport? (j : Json) : Option HealthReport := do
  let [status, components] ← fields? ["status", "components"] 0 j | none
  return ⟨← status.bind status?, ← components.bind (table? componentReport?)⟩

def readinessReport? (j : Json) : Option ReadinessReport := do
  let [ready, reason] ← fields? ["ready", "reason"] 0 j | none
  return ⟨← ready.bind flag?, ← optional? text? reason⟩

end ObjectMetrics.Wire
