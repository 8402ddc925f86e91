import ObjectMetrics.Catalog.Mapping
import ObjectMetrics.Fault
/-!
The catalog of resource types: mappings, the names under which each can be asked for, and the
resource that stands for each kind. A catalog is built once from one discovery listing and does not
change after that. A request may spell its resource in the plural or the singular, in any case of ASCII
letters, and without its group; the identity that it is normalized to always carries the canonical
group and plural.
-/
namespace ObjectMetrics

inductive CatalogWarning where
  /-- A later report contradicts the first one on kind or scope. -/
  | conflictingReport (resource : GroupResource) (version kind existingKind : String)
  /-- A kind already stands for another resource. -/
  | kindTaken (kind : String) (resource owner : GroupResource)
  /-- A singular name has several owners, or is a plural name too. -/
  | aliasWithheld (group singular : String) (owners : Nat)
deriving DecidableEq, Repr

structure Catalog where
  generation : Nat
  /-- One mapping for each group and plural, in the order of first reports. -/
  mappings : List Mapping
  /-- Each published name with a resource that has it. -/
  names : List (String × GroupResource)
  /-- Each kind with the resource that stands for it. -/
  kinds : List (GroupKind × GroupResource)
deriving DecidableEq, Repr

/-- An identity with what its lookup learned about the resource. -/
structure Normalized where
  identity : MetricIdentity
  singular : String
  scope : Scope
deriving DecidableEq, Repr

namespace Catalog

def empty : Catalog := ⟨0, [], [], []⟩

instance : Inhabited Catalog := ⟨empty⟩

def size (c : Catalog) : Nat := c.mappings.length

def isEmpty (c : Catalog) : Bool := c.mappings.isEmpty

def get? (c : Catalog) (gr : GroupResource) : Option Mapping :=
  c.mappings.find? fun m => m.groupResource = gr

def candidates (c : Catalog) (ref : ResourceReference) : List Mapping :=
  let name := Text.lower ref.resource
  let owners := c.names.filterMap fun (n, gr) =>
    if n = name && (ref.group = "" || gr.group = ref.group) then some gr else none
  (owners.filterMap c.get?).filter fun m => m.serves ref.version

/-- The mapping that a reference means. Among the mappings of several groups the first preferred
group decides that has one of them. -/
def resolve (c : Catalog) (preferred : List String) (ref : ResourceReference) :
    Except Fault Mapping :=
  match c.candidates ref with
  | [] => .error (.resourceNotFound ref.groupResource)
  | [only] => .ok only
  | several =>
    match preferred.findSome? fun group => several.find? fun m => m.group = group with
    | some m => .ok m
    | none =>
      let names := several.map fun m => m.groupResource.text
      .error (.ambiguous ref.groupResource (Order.sortStable id names))

/-- The kind that a reference means; a version that the reference names is kept. -/
def kindOf (c : Catalog) (preferred : List String) (ref : ResourceReference) :
    Except Fault GroupVersionKind :=
  (c.resolve preferred ref).map fun m =>
    if ref.version = "" then m.groupVersionKind
    else { m.groupVersionKind with version := ref.version }

def ofKind (c : Catalog) (gk : GroupKind) : Except Fault Mapping :=
  match (c.kinds.find? fun entry => entry.1 = gk).bind fun entry => c.get? entry.2 with
  | some m => .ok m
  | none => .error (.kindNotFound gk)

def singularOf (c : Catalog) (gr : GroupResource) : Except Fault String :=
  match c.get? gr with
  | some m => .ok m.singular
  | none => .error (.resourceNotFound gr)

def normalize (c : Catalog) (preferred : List String) (request : MetricRequest) :
    Except Fault Normalized :=
  match c.resolve preferred request.resource.anyVersion with
  | .error fault => .error fault
  | .ok m =>
    (c.singularOf m.groupResource).map fun singular =>
      ⟨⟨m.groupResource, request.namespaced, request.metric⟩, singular, m.scope⟩

end Catalog
end ObjectMetrics
