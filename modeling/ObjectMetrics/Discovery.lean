import ObjectMetrics.Catalog.Mapping
import ObjectMetrics.Fault
/-!
A discovery source whose listing is set from outside. A set failure makes every listing fail until
it is taken back; failed listings count as calls too.
-/
namespace ObjectMetrics

structure DiscoverySource where
  reports : List ResourceReport
  failure : Option String
  calls : Nat
deriving DecidableEq

namespace DiscoverySource

def ofReports (reports : List ResourceReport) : DiscoverySource := ⟨reports, none, 0⟩

instance : Inhabited DiscoverySource := ⟨ofReports []⟩

def setReports (s : DiscoverySource) (reports : List ResourceReport) : DiscoverySource :=
  { s with reports }

def addReport (s : DiscoverySource) (report : ResourceReport) : DiscoverySource :=
  { s with reports := s.reports ++ [report] }

def setFailure (s : DiscoverySource) (message : Option String) : DiscoverySource :=
  { s with failure := message }

def listing (s : DiscoverySource) : Except Failure (List ResourceReport) :=
  match s.failure with
  | some message => .error (Failure.ofCause message)
  | none => .ok s.reports

def called (s : DiscoverySource) : DiscoverySource := { s with calls := s.calls + 1 }

end DiscoverySource
end ObjectMetrics
