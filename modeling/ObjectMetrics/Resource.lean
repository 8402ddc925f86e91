import ObjectMetrics.Text.Split
/-!
Names of resource types, kinds and single objects. A group-resource is written `resource` for the
core group and `resource.group` otherwise; the group may itself contain dots.
-/
namespace ObjectMetrics

/-- A resource type without its version; the core group is the empty text. -/
structure GroupResource where
  group : String
  resource : String
deriving DecidableEq, Repr, Inhabited

namespace GroupResource

/-- Read `resource` or `resource.group`; the first dot separates. -/
def ofText (raw : String) : GroupResource :=
  match Text.cut? '.' raw with
  | some (resource, group) => ⟨group, resource⟩
  | none => ⟨"", raw⟩

def text (gr : GroupResource) : String :=
  if gr.group = "" then gr.resource else gr.resource ++ "." ++ gr.group

end GroupResource

/-- A possibly partial reference to a resource type. An empty group leaves the group open and an
empty version the version. -/
structure ResourceReference where
  group : String
  version : String
  resource : String
deriving DecidableEq, Repr, Inhabited

def ResourceReference.groupResource (ref : ResourceReference) : GroupResource :=
  ⟨ref.group, ref.resource⟩

def GroupResource.anyVersion (gr : GroupResource) : ResourceReference :=
  ⟨gr.group, "", gr.resource⟩

structure GroupKind where
  group : String
  kind : String
deriving DecidableEq, Repr, Inhabited

structure GroupVersionKind where
  group : String
  version : String
  kind : String
deriving DecidableEq, Repr, Inhabited

def GroupVersionKind.apiVersion (gvk : GroupVersionKind) : String :=
  if gvk.group = "" then gvk.version else gvk.group ++ "/" ++ gvk.version

inductive Scope where
  | namespaced
  | cluster
deriving DecidableEq, Repr, Inhabited

def Scope.ofNamespaced (namespaced : Bool) : Scope := if namespaced then .namespaced else .cluster

def Scope.isNamespaced : Scope → Bool
  | .namespaced => true
  | .cluster => false

def Scope.text : Scope → String
  | .namespaced => "namespaced"
  | .cluster => "cluster"

/-- Where one object is found; cluster-wide objects have the empty namespace. -/
structure ObjectKey where
  ns : String
  name : String
deriving DecidableEq, Repr, Inhabited

namespace ObjectKey

def clusterWide (name : String) : ObjectKey := ⟨"", name⟩

def text (key : ObjectKey) : String :=
  if key.ns = "" then key.name else key.ns ++ "/" ++ key.name

end ObjectKey

structure MetricRequest where
  resource : GroupResource
  namespaced : Bool
  metric : String
deriving DecidableEq, Repr, Inhabited

/-- A metric of a resource type under its canonical plural name. Identities made by normalization
are equal exactly when they mean the same metric of the same resource type. -/
structure MetricIdentity where
  resource : GroupResource
  namespaced : Bool
  metric : String
deriving DecidableEq, Repr, Inhabited

namespace MetricIdentity

def request (i : MetricIdentity) : MetricRequest := ⟨i.resource, i.namespaced, i.metric⟩

def text (i : MetricIdentity) : String :=
  i.resource.text ++ "/" ++ i.metric ++ (if i.namespaced then "(namespaced)" else "")

/-- Identities are listed by group, resource, namespaced flag and metric. -/
def sortKey (i : MetricIdentity) : List String :=
  [i.resource.group, i.resource.resource, if i.namespaced then "namespaced" else "cluster", i.metric]

theorem sortKey_inj {i j : MetricIdentity} (h : i.sortKey = j.sortKey) : i = j := by
  obtain ⟨⟨ig, ir⟩, ins, im⟩ := i
  obtain ⟨⟨jg, jr⟩, jns, jm⟩ := j
  simp only [sortKey, List.cons.injEq, and_true] at h
  obtain ⟨rfl, rfl, flags, rfl⟩ := h
  cases ins <;> cases jns <;> simp_all

end MetricIdentity
end ObjectMetrics
