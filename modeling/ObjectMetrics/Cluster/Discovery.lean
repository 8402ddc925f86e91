import ObjectMetrics.Catalog.Mapping
import ObjectMetrics.Cluster.Address
import ObjectMetrics.Fault
import ObjectMetrics.Order.Sorted
/-!
Discovery through the cluster's API server: reading the lists of groups, and the resources of each
group version. A group version is read from the address that its root spells, so what it reports is
what the server has there. One list that cannot be read makes the whole discovery fail.
-/
namespace ObjectMetrics.Cluster

structure ServedResource where
  plural : String
  kind : String
  namespaced : Bool
deriving DecidableEq, Repr

structure ServedGroup where
  group : String
  version : String
  resources : List ServedResource
deriving DecidableEq, Repr

/-- An API server: what it serves, and the paths that cannot be read. -/
structure ApiServer where
  groups : List ServedGroup
  missing : List String
deriving DecidableEq, Repr

def coreVersion : String := "v1"

namespace ServedGroup

def isCore (g : ServedGroup) : Bool := g.group = ""

def root (g : ServedGroup) : String := groupRoot g.group g.version

def groupVersion (g : ServedGroup) : String :=
  if g.isCore then g.version else g.group ++ "/" ++ g.version

/-- Whether a resource name lives in namespaces. The first entry of a name decides for all of them. -/
def isNamespaced (g : ServedGroup) (plural : String) : Bool :=
  (g.resources.find? fun r => r.plural = plural).any (·.namespaced)

/-- The resources that a group version reports. Its text is split into group and version at the first
slash. Names with a slash are parts of another resource; the singular name is the kind in small
letters. -/
def reports (g : ServedGroup) : List ResourceReport :=
  let (group, version) := (Text.cut? '/' g.groupVersion).getD ("", g.groupVersion)
  (g.resources.filter fun r => !r.plural.toList.contains '/').map fun r =>
    { group, version, resource := r.plural, namespaced := g.isNamespaced r.plural, kind := r.kind
      singular := some (Text.lower r.kind) }

end ServedGroup

namespace ApiServer

def listPaths : List String := ["/apis", "/api"]

def served? (s : ApiServer) (path : String) : Option ServedGroup :=
  if s.missing.contains path then none else s.groups.reverse.find? fun g => g.root = path

def read? (s : ApiServer) (g : ServedGroup) : Option ServedGroup :=
  (Address.ofText? g.root).bind fun address => s.served? address.path

/-- The group versions that are used: of the core group one fixed version, of another group the one
listed last. -/
def recommended : List ServedGroup → List ServedGroup
  | [] => []
  | g :: gs =>
    let used :=
      if g.isCore then g.version = coreVersion && gs.all fun later => later.root ≠ g.root
      else gs.all fun later => later.group ≠ g.group
    if used then g :: recommended gs else recommended gs

def obstacle? (s : ApiServer) : Option Failure :=
  let roots := (s.groups.filter fun g => (s.read? g).isNone).map ServedGroup.root
  match listPaths.filter s.missing.contains ++ roots with
  | path :: _ => some (.ofCause (path ++ " cannot be read"))
  | [] =>
    if s.groups.any ServedGroup.isCore then none
    else some (.ofCause "the core group has no version")

def discover (s : ApiServer) : Except Failure (List ResourceReport) :=
  match s.obstacle? with
  | some failure => .error (failure.within "Failed to run API discovery")
  | none =>
    let listings := (recommended s.groups).filterMap s.read?
    .ok (Order.sortStable (fun r => [r.group, r.resource]) (listings.flatMap ServedGroup.reports))

end ApiServer
end ObjectMetrics.Cluster
