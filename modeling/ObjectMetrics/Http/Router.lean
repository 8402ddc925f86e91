import ObjectMetrics.Http.Request
import ObjectMetrics.Http.Response
import ObjectMetrics.Text.Percent
/-!
The HTTP interface: which path leads where, which methods it takes, and what it answers. Three pages
show the state of the adapter; below a fourth path values are written, unless writing is turned off.
-/
namespace ObjectMetrics

inductive Route where
  | health
  | readiness
  | metrics
  /-- The rest of the path, as it is encoded. -/
  | write (path : String)
deriving DecidableEq, Repr

def writeRoot : List Char := "/write-metrics/".toList

namespace Route

def belowWriteRoot? (path : String) : Option String :=
  let rest := path.toList.drop writeRoot.length
  if writeRoot.isPrefixOf path.toList && !rest.isEmpty then some (String.ofList rest) else none

def ofPath? (ingestion : Bool) (path : String) : Option Route :=
  if path = "/healthz" then some .health
  else if path = "/readyz" then some .readiness
  else if path = "/metrics" then some .metrics
  else if ingestion then (belowWriteRoot? path).map .write
  else none

end Route

namespace Adapter

def page (a : Adapter) : Route → HttpResponse
  | .health => .ofHealth a.health
  | .readiness => .ofReadiness a.health
  | .metrics => ⟨200, .text a.telemetry.exposition⟩
  | .write _ => .methodNotAllowed

def maxBodySize : Nat := 2 * 1024 * 1024

/-- Answer a request to write. Path and query are decoded, and the body is measured, before anything
is looked at. -/
def serveWrite (a : Adapter) (path : String) (r : HttpRequest) : HttpResponse × Adapter :=
  match Text.decodePath path, Text.queryValues r.query "labels" with
  | none, _ => (.undecodablePath, a)
  | some _, _ :: _ :: _ => (.repeatedLabels, a)
  | some path, labels =>
    if maxBodySize < r.body.length then (.oversizedBody, a)
    else
      match WriteOrder.read path labels.head? r.body with
      | .error refusal => (.ofRefusal refusal, a)
      | .ok order =>
        match a.execute order with
        | (.error refusal, a) => (.ofRefusal refusal, a)
        | (.ok record, a) => (.ofRecord record, a)

def serve (a : Adapter) (r : HttpRequest) : HttpResponse × Adapter :=
  match Route.ofPath? a.settings.ingestion r.path with
  | none => (.notFound, a)
  | some (.write path) =>
    if r.method = "POST" then a.serveWrite path r else (.methodNotAllowed, a)
  | some route =>
    if r.method = "GET" then (a.page route, a)
    else if r.method = "HEAD" then ((a.page route).headOnly, a)
    else (.methodNotAllowed, a)

end Adapter
end ObjectMetrics
