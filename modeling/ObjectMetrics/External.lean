import ObjectMetrics.Fault
import ObjectMetrics.Instant
/-!
External metrics: a fixed list of named values with labels that belong to no object. A query answers
with all entries of a name whose labels satisfy a selector, stamped with the time of the query.
-/
namespace ObjectMetrics

structure ExternalEntry where
  name : String
  labels : LabelSet
  value : Float
deriving DecidableEq

structure ExternalSample where
  name : String
  labels : LabelSet
  value : Float
  timestamp : Instant
deriving DecidableEq

def ExternalEntry.sampleAt (e : ExternalEntry) (now : Instant) : ExternalSample :=
  ⟨e.name, e.labels, e.value, now⟩

structure ExternalIndex where
  entries : List ExternalEntry
deriving DecidableEq

namespace ExternalIndex

def samples : ExternalIndex :=
  ⟨[⟨"my-external-metric", LabelSet.ofList [("foo", "bar")], 42⟩,
    ⟨"my-external-metric", LabelSet.ofList [("foo", "baz")], 43⟩,
    ⟨"other-external-metric", LabelSet.empty, 44⟩]⟩

/-- The samples of a name whose labels satisfy a selector, in the order of the entries. -/
def query (index : ExternalIndex) (now : Instant) (name : String) (selector : Selector) :
    List ExternalSample :=
  (index.entries.filter fun e => e.name = name && selector.isMetBy e.labels).map fun e =>
    e.sampleAt now

def names (index : ExternalIndex) : List String :=
  Order.distinct id (index.entries.map ExternalEntry.name)

def size (index : ExternalIndex) : Nat := index.entries.length

def isEmpty (index : ExternalIndex) : Bool := index.entries.isEmpty

end ExternalIndex
end ObjectMetrics
