import ObjectMetrics.Label.Reading
import ObjectMetrics.Resource
/-!
What can go wrong in a lookup, a read or a write, and the texts that say so.
-/
namespace ObjectMetrics

/-- A failed call to the outside: the first cause, and the contexts it was reported through. -/
structure Failure where
  cause : String
  contexts : List String
deriving DecidableEq, Repr

namespace Failure

def ofCause (cause : String) : Failure := ⟨cause, []⟩

def within (f : Failure) (context : String) : Failure := ⟨f.cause, f.contexts ++ [context]⟩

def summary (f : Failure) : String := f.contexts.getLast?.getD f.cause

def chain (f : Failure) : String := ": ".intercalate (f.contexts.reverse ++ [f.cause])

end Failure

inductive Collaborator where
  | discovery
  | objectLister
deriving DecidableEq, Repr

def Collaborator.name : Collaborator → String
  | discovery => "discovery"
  | objectLister => "object lister"

inductive Fault where
  | resourceNotFound (resource : GroupResource)
  | kindNotFound (kind : GroupKind)
  | metricNotFound (resource : GroupResource) (metric object : String)
  /-- A value is stored, but its labels do not satisfy the metric selector. -/
  | metricNotSelected (resource : GroupResource) (metric object : String) (selector : Selector)
  | ambiguous (reference : GroupResource) (candidates : List String)
  | transient (collaborator : Collaborator) (failure : Failure)
  | invalidSelector (raw : String) (flaw : Label.Flaw)
deriving DecidableEq

inductive FaultClass where
  | notFound
  | ambiguous
  | transient
  | invalidSelector
deriving DecidableEq, Repr

def FaultClass.text : FaultClass → String
  | notFound => "not_found"
  | ambiguous => "ambiguous"
  | transient => "transient"
  | invalidSelector => "invalid_selector"

namespace Fault

def faultClass : Fault → FaultClass
  | resourceNotFound _ | kindNotFound _ | metricNotFound .. | metricNotSelected .. => .notFound
  | ambiguous .. => .ambiguous
  | transient .. => .transient
  | invalidSelector .. => .invalidSelector

def isNotFound (f : Fault) : Bool := f.faultClass = .notFound

private def metricMissing (resource : GroupResource) (metric object : String) : String :=
  s!"the server could not find the metric {metric} for {resource.text} {object}"

def message : Fault → String
  | resourceNotFound gr => "the server could not find the requested resource " ++ gr.text
  | kindNotFound gk => s!"no resource registered for kind {gk.kind} in group " ++ Text.quote gk.group
  | metricNotFound gr metric object => metricMissing gr metric object
  | metricNotSelected gr metric object selector =>
    metricMissing gr metric object ++ " with selector " ++ selector.text
  | ambiguous gr candidates =>
    gr.text ++ " matches multiple resources: " ++ ", ".intercalate candidates
  | transient c failure => c.name ++ " failed: " ++ failure.chain
  | invalidSelector raw flaw =>
    "unable to parse selector " ++ Text.quote raw ++ ": " ++ flaw.message

end Fault

def Selector.parse (raw : String) : Except Fault Selector :=
  (Selector.read raw).mapError (Fault.invalidSelector raw)

def LabelSet.parse (raw : String) : Except Fault LabelSet :=
  (LabelSet.read raw).mapError (Fault.invalidSelector raw)

end ObjectMetrics
