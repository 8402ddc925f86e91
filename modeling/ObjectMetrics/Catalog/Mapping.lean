import ObjectMetrics.Resource
import ObjectMetrics.Text.Case
/-!
What discovery reports about resource types, and what the catalog keeps of it: one mapping for each
group and plural name.
-/
namespace ObjectMetrics

/-- One resource type in one version, as discovery reports it. -/
structure ResourceReport where
  group : String
  version : String
  resource : String
  namespaced : Bool
  kind : String
  singular : Option String
deriving DecidableEq, Repr

namespace ResourceReport

def plural (r : ResourceReport) : String := Text.lower r.resource

def groupResource (r : ResourceReport) : GroupResource := ⟨r.group, r.plural⟩

def groupKind (r : ResourceReport) : GroupKind := ⟨r.group, r.kind⟩

def scope (r : ResourceReport) : Scope := Scope.ofNamespaced r.namespaced

/-- Whether a report names a resource type: one with a name, and not a part of another. -/
def isResource (r : ResourceReport) : Bool := r.plural ≠ "" && !r.plural.toList.contains '/'

/-- The singular name: the reported one, or else the kind, or else one made from the plural. -/
def singularName (singularize : String → String) (r : ResourceReport) : String :=
  let reported := r.singular.getD ""
  if reported ≠ "" then Text.lower reported
  else if r.kind ≠ "" then Text.lower r.kind
  else singularize r.plural

end ResourceReport

/-- What is known about one group-resource. The version reported first is the preferred one. -/
structure Mapping where
  group : String
  plural : String
  singular : String
  kind : String
  scope : Scope
  version : String
  laterVersions : List String
deriving DecidableEq, Repr

namespace Mapping

def groupResource (m : Mapping) : GroupResource := ⟨m.group, m.plural⟩

def groupKind (m : Mapping) : GroupKind := ⟨m.group, m.kind⟩

def groupVersionKind (m : Mapping) : GroupVersionKind := ⟨m.group, m.version, m.kind⟩

def versions (m : Mapping) : List String := m.version :: m.laterVersions

/-- Whether a mapping serves a version; the empty version leaves it open. -/
def serves (m : Mapping) (version : String) : Bool := version = "" || m.versions.contains version

def hasAlias (m : Mapping) : Bool := m.singular ≠ m.plural

def addVersion (m : Mapping) (version : String) : Mapping :=
  if m.versions.contains version then m
  else { m with laterVersions := m.laterVersions ++ [version] }

def ofReport (singularize : String → String) (r : ResourceReport) : Mapping where
  group := r.group
  plural := r.plural
  singular := r.singularName singularize
  kind := r.kind
  scope := r.scope
  version := r.version
  laterVersions := []

def agreesWith (m : Mapping) (r : ResourceReport) : Bool := m.kind = r.kind && m.scope = r.scope

end Mapping
end ObjectMetrics
