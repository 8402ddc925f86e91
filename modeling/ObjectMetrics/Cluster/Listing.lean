import ObjectMetrics.Catalog.Basic
import ObjectMetrics.Cluster.Address
import ObjectMetrics.Text.Percent
/-!
Listing the objects of a metric's resource through the cluster's API server. A listing resolves the
resource in the catalog of the moment, sends at most one request, and answers with the names of the
objects that have one.
-/
namespace ObjectMetrics.Cluster

/-- One question to the API server: the objects of a resource that satisfy a selector. -/
structure ListRequest where
  mapping : Mapping
  ns : String
  selector : Selector
deriving DecidableEq

namespace ListRequest

/-- Where the objects are found. Without a namespace, and for resources that know none, that is the
whole cluster. -/
def path (r : ListRequest) : String :=
  let place :=
    if r.mapping.scope.isNamespaced && r.ns ≠ "" then "/namespaces/" ++ r.ns else ""
  groupRoot r.mapping.group r.mapping.version ++ place ++ "/" ++ r.mapping.plural

def query (r : ListRequest) : String :=
  if r.selector.isEverything then "" else "&labelSelector=" ++ Text.encodeForm r.selector.text

def target (r : ListRequest) : String := r.path ++ "?" ++ r.query

def address? (r : ListRequest) : Option Address := Address.ofText? r.target

end ListRequest

/-- What the API server answers: the name of each object, where it has one. -/
abbrev ListReply := Except Failure (List (Option String))

def listRequest (c : Catalog) (preferred : List String) (i : MetricIdentity) (ns : String)
    (selector : Selector) : Except Failure ListRequest :=
  match c.resolve preferred i.resource.anyVersion with
  | .ok mapping => .ok { mapping, ns, selector }
  | .error fault =>
    .error ((Failure.ofCause fault.message).within ("Failed to resolve API resource for " ++ i.text))

/-- Put a request to a server; the addresses are those that it saw. -/
def ask (server : Address → ListReply) (r : ListRequest) : Except Failure (List String) × List Address :=
  let context := s!"Failed to list {r.mapping.groupResource.text} in " ++ Text.quote r.ns
  match r.address? with
  | none => (.error ((Failure.ofCause (Address.refusal r.target)).within context), [])
  | some address =>
    match server address with
    | .ok names => (.ok (names.filterMap id), [address])
    | .error failure => (.error (failure.within context), [address])

def objectNames (server : Address → ListReply) (c : Catalog) (preferred : List String)
    (i : MetricIdentity) (ns : String) (selector : Selector) :
    Except Failure (List String) × List Address :=
  match listRequest c preferred i ns selector with
  | .error failure => (.error failure, [])
  | .ok r => ask server r

end ObjectMetrics.Cluster
