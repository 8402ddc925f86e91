import ObjectMetrics.Resource
import ObjectMetrics.Text.Split
/-!
Write targets: the metric and object that a path names. There are three forms,
`namespaces/NS/RESOURCE/NAME/METRIC`, `RESOURCE/NAME/metrics/METRIC` and `RESOURCE/NAME/METRIC`;
their lengths differ, so a path has at most one of them. Slashes around a path do not count.
-/
namespace ObjectMetrics

structure WriteTarget where
  resource : String
  ns : String
  name : String
  metric : String
deriving DecidableEq, Repr

namespace WriteTarget

def ofSegments? : List String → Option WriteTarget
  | ["namespaces", ns, resource, name, metric] => some ⟨resource, ns, name, metric⟩
  | [resource, name, "metrics", metric] => some ⟨resource, "", name, metric⟩
  | [resource, name, metric] => some ⟨resource, "", name, metric⟩
  | _ => none

def segments (path : String) : List String :=
  (Text.splitAll '/' (Text.stripBoth (· = '/') path.toList)).map String.ofList

def ofPath? (path : String) : Option WriteTarget :=
  if (segments path).contains "" then none else ofSegments? (segments path)

/-- Whether the target counts as namespaced: it has a namespace, or its object is one. -/
def isNamespaced (t : WriteTarget) : Bool := t.ns ≠ "" || t.resource = "namespaces"

def request (t : WriteTarget) : MetricRequest :=
  ⟨GroupResource.ofText t.resource, t.isNamespaced, t.metric⟩

def key (t : WriteTarget) : ObjectKey := ⟨t.ns, t.name⟩

end WriteTarget
end ObjectMetrics
