import ObjectMetrics.Catalog.Basic
/-!
Building a catalog from a discovery listing. The first report of a group and plural makes the
mapping, later ones that agree with it add versions, and those that do not are left out with a
warning. A singular name is published only where it can mean one resource.
-/
namespace ObjectMetrics

structure CatalogDraft where
  mappings : List Mapping
  kinds : List (GroupKind × GroupResource)
  warnings : List CatalogWarning
deriving DecidableEq, Repr

namespace CatalogDraft

def empty : CatalogDraft := ⟨[], [], []⟩

def get? (d : CatalogDraft) (gr : GroupResource) : Option Mapping :=
  d.mappings.find? fun m => m.groupResource = gr

def warn (d : CatalogDraft) (w : CatalogWarning) : CatalogDraft :=
  { d with warnings := d.warnings ++ [w] }

/-- Let a resource stand for its kind, unless another one does. -/
def claimKind (d : CatalogDraft) (gk : GroupKind) (gr : GroupResource) : CatalogDraft :=
  match d.kinds.find? fun entry => entry.1 = gk with
  | some entry => d.warn (.kindTaken gk.kind gr entry.2)
  | none => { d with kinds := d.kinds ++ [(gk, gr)] }

def addVersion (d : CatalogDraft) (m : Mapping) (r : ResourceReport) : CatalogDraft :=
  if m.agreesWith r then
    { d with mappings := d.mappings.map fun other =>
        if other.groupResource = m.groupResource then other.addVersion r.version else other }
  else d.warn (.conflictingReport r.groupResource r.version r.kind m.kind)

def addMapping (singularize : String → String) (d : CatalogDraft) (r : ResourceReport) :
    CatalogDraft :=
  let d := d.claimKind r.groupKind r.groupResource
  { d with mappings := d.mappings ++ [.ofReport singularize r] }

def add (singularize : String → String) (d : CatalogDraft) (r : ResourceReport) : CatalogDraft :=
  if r.isResource then
    match d.get? r.groupResource with
    | some m => d.addVersion m r
    | none => d.addMapping singularize r
  else d

end CatalogDraft

/-- The mappings of a group that have a singular name of their own, and have this one. -/
def aliasOwners (ms : List Mapping) (group singular : String) : List Mapping :=
  ms.filter fun m => m.group = group && m.singular = singular && m.hasAlias

def aliasIsUnique (ms : List Mapping) (group singular : String) : Bool :=
  (aliasOwners ms group singular).length ≤ 1 &&
    !ms.any fun m => m.group = group && m.plural = singular

def publishedNames (ms : List Mapping) : List (String × GroupResource) :=
  let plurals := ms.map fun m => (m.plural, m.groupResource)
  let aliases := (ms.filter fun m => m.hasAlias && aliasIsUnique ms m.group m.singular).map fun m =>
    (m.singular, m.groupResource)
  plurals ++ aliases

/-- One warning for each singular name that is not published, given at its first owner. -/
def withheldAliases (ms : List Mapping) : List CatalogWarning :=
  ms.filterMap fun m =>
    let owners := aliasOwners ms m.group m.singular
    if owners.head? = some m && !aliasIsUnique ms m.group m.singular then
      some (.aliasWithheld m.group m.singular owners.length)
    else none

namespace Catalog

/-- The catalog of a discovery listing, and what had to be left out of it. -/
def build (singularize : String → String) (generation : Nat) (reports : List ResourceReport) :
    Catalog × List CatalogWarning :=
  let draft := reports.foldl (CatalogDraft.add singularize) .empty
  ({ generation, mappings := draft.mappings, names := publishedNames draft.mappings,
     kinds := draft.kinds },
    draft.warnings ++ withheldAliases draft.mappings)

end Catalog
end ObjectMetrics
