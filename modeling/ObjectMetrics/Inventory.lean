import ObjectMetrics.Fault
import ObjectMetrics.Order.Keyed
/-!
The inventory of objects behind selector queries. For each resource and namespace it keeps the names
of objects in the order in which they were first added, with their current labels. A set failure
makes every listing fail until it is taken back; failed listings count as calls too.
-/
namespace ObjectMetrics

structure InventoryItem where
  resource : GroupResource
  key : ObjectKey
  labels : LabelSet
deriving DecidableEq

def InventoryItem.place (item : InventoryItem) : GroupResource × ObjectKey := (item.resource, item.key)

structure Inventory where
  items : List InventoryItem
  failure : Option String
  calls : Nat
deriving DecidableEq

namespace Inventory

def empty : Inventory := ⟨[], none, 0⟩

instance : Inhabited Inventory := ⟨empty⟩

def add (inv : Inventory) (item : InventoryItem) : Inventory :=
  { inv with items := Order.put InventoryItem.place item inv.items }

def setFailure (inv : Inventory) (message : Option String) : Inventory :=
  { inv with failure := message }

def names (inv : Inventory) (resource : GroupResource) (ns : String) (selector : Selector) :
    List String :=
  (inv.items.filter fun item =>
    item.resource = resource && item.key.ns = ns && selector.isMetBy item.labels).map fun item =>
      item.key.name

def list (inv : Inventory) (resource : GroupResource) (ns : String) (selector : Selector) :
    Except Failure (List String) × Inventory :=
  let result :=
    match inv.failure with
    | some message => .error (Failure.ofCause message)
    | none => .ok (inv.names resource ns selector)
  (result, { inv with calls := inv.calls + 1 })

end Inventory
end ObjectMetrics
