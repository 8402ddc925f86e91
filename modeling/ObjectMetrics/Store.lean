import ObjectMetrics.Fault
import ObjectMetrics.Instant
import ObjectMetrics.Order.Keyed
/-!
The store of metric values: for each identity and object the value written last, with its labels and
its time.
-/
namespace ObjectMetrics

structure MetricRecord where
  identity : MetricIdentity
  key : ObjectKey
  value : Float
  labels : LabelSet
  timestamp : Instant
deriving DecidableEq

def MetricRecord.place (r : MetricRecord) : MetricIdentity × ObjectKey := (r.identity, r.key)

theorem MetricRecord.place_eq_iff {r : MetricRecord} {i : MetricIdentity} {key : ObjectKey} :
    r.place = (i, key) ↔ r.identity = i ∧ r.key = key :=
  Prod.mk.injEq .. ▸ Iff.rfl

/-- Records, at most one for each identity and object. -/
structure Store where
  records : List MetricRecord
deriving DecidableEq

namespace Store

def empty : Store := ⟨[]⟩

instance : Inhabited Store := ⟨empty⟩

def size (s : Store) : Nat := s.records.length

def isEmpty (s : Store) : Bool := s.records.isEmpty

def get? (s : Store) (i : MetricIdentity) (key : ObjectKey) : Option MetricRecord :=
  s.records.find? fun r => r.place = (i, key)

/-- Store a record in exchange for the one of its identity and object, if there is one. -/
def upsert (s : Store) (r : MetricRecord) : Store := ⟨Order.put MetricRecord.place r s.records⟩

/-- The record of an identity and an object, if its labels satisfy the selector. -/
def lookup (s : Store) (i : MetricIdentity) (key : ObjectKey) (selector : Selector) :
    Except Fault MetricRecord :=
  match s.get? i key with
  | none => .error (.metricNotFound i.resource i.metric key.name)
  | some r =>
    if selector.isMetBy r.labels then .ok r
    else .error (.metricNotSelected i.resource i.metric key.name selector)

def lookupAll (s : Store) (i : MetricIdentity) (ns : String) (selector : Selector)
    (names : List String) : List MetricRecord :=
  names.filterMap fun name => (s.lookup i ⟨ns, name⟩ selector).toOption

/-- What a lister's answer selects: the records of the objects that it names. Only a failed answer
fails the selection. -/
def select (s : Store) (i : MetricIdentity) (ns : String) (selector : Selector)
    (listed : Except Failure (List String)) : Except Fault (List MetricRecord) :=
  match listed with
  | .error failure => .error (.transient .objectLister failure)
  | .ok names => .ok (s.lookupAll i ns selector names)

def identities (s : Store) : List MetricIdentity :=
  Order.distinct MetricIdentity.sortKey (s.records.map MetricRecord.identity)

theorem get?_upsert (s : Store) (r : MetricRecord) (i : MetricIdentity) (key : ObjectKey) :
    (s.upsert r).get? i key = if r.place = (i, key) then some r else s.get? i key :=
  Order.find?_put MetricRecord.place r s.records (i, key)

theorem place_of_find? {records : List MetricRecord} {i : MetricIdentity} {key : ObjectKey}
    {r : MetricRecord} (found : records.find? (fun r => r.place = (i, key)) = some r) :
    r.identity = i ∧ r.key = key :=
  MetricRecord.place_eq_iff.mp (by simpa using List.find?_some found)

theorem toOption_lookup (s : Store) (i : MetricIdentity) (key : ObjectKey) (selector : Selector) :
    (s.lookup i key selector).toOption = (s.get? i key).filter fun r => selector.isMetBy r.labels := by
  unfold lookup
  cases s.get? i key with
  | none => rfl
  | some r => by_cases met : selector.isMetBy r.labels <;> simp [met, Except.toOption, Option.filter]

theorem get?_of_lookup {s : Store} {i : MetricIdentity} {key : ObjectKey} {selector : Selector}
    {r : MetricRecord} (found : s.lookup i key selector = .ok r) : s.get? i key = some r := by
  have visible := s.toOption_lookup i key selector
  rw [found] at visible
  exact (Option.filter_eq_some_iff.mp visible.symm).1

theorem error_of_lookup {s : Store} {i : MetricIdentity} {key : ObjectKey} {selector : Selector}
    {fault : Fault} (failed : s.lookup i key selector = .error fault) :
    fault = .metricNotFound i.resource i.metric key.name ∨
      fault = .metricNotSelected i.resource i.metric key.name selector := by
  unfold lookup at failed
  split at failed
  · exact .inl (Except.error.inj failed).symm
  · split at failed
    · cases failed
    · exact .inr (Except.error.inj failed).symm

theorem isNotFound_of_lookup {s : Store} {i : MetricIdentity} {key : ObjectKey}
    {selector : Selector} {fault : Fault} (failed : s.lookup i key selector = .error fault) :
    fault.isNotFound := by
  obtain rfl | rfl := error_of_lookup failed <;> rfl

end Store
end ObjectMetrics
