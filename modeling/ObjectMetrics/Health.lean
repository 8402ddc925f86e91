import ObjectMetrics.Order.Keyed
/-!
Health of the adapter's components and its readiness. The whole is as healthy as its worst component;
the adapter is ready once it has been marked so and no component is unhealthy. One process tells
another the reports of components with the time of their last change, and whether an adapter is ready.
-/
namespace ObjectMetrics

inductive ComponentStatus where
  | healthy
  | degraded
  | unhealthy
deriving DecidableEq, Repr, Inhabited

namespace ComponentStatus

def text : ComponentStatus → String
  | healthy => "healthy"
  | degraded => "degraded"
  | unhealthy => "unhealthy"

def isOperational : ComponentStatus → Bool
  | healthy | degraded => true
  | unhealthy => false

def worse : ComponentStatus → ComponentStatus → ComponentStatus
  | unhealthy, _ | _, unhealthy => unhealthy
  | degraded, _ | _, degraded => degraded
  | healthy, healthy => healthy

/-- The worst of some statuses; nothing at all is healthy. -/
def worst (statuses : List ComponentStatus) : ComponentStatus := statuses.foldl worse healthy

end ComponentStatus

structure ComponentHealth where
  status : ComponentStatus
  message : Option String
deriving DecidableEq, Repr, Inhabited

namespace ComponentHealth

def healthy : ComponentHealth := ⟨.healthy, none⟩

def degraded (message : String) : ComponentHealth := ⟨.degraded, some message⟩

def unhealthy (message : String) : ComponentHealth := ⟨.unhealthy, some message⟩

end ComponentHealth

structure ComponentReport where
  health : ComponentHealth
  checkedAt : Int
deriving DecidableEq, Repr

structure HealthReport where
  status : ComponentStatus
  components : List (String × ComponentReport)
deriving DecidableEq, Repr

structure ReadinessReport where
  ready : Bool
  reason : Option String
deriving DecidableEq, Repr

/-- The last report of each component, and the ready mark. -/
structure HealthBoard where
  components : List (String × ComponentHealth)
  marked : Bool
deriving DecidableEq, Repr

namespace HealthBoard

def empty : HealthBoard := ⟨[], false⟩

instance : Inhabited HealthBoard := ⟨empty⟩

def mapper : String := "mapper"

def store : String := "store"

def get? (b : HealthBoard) (name : String) : Option ComponentHealth :=
  (b.components.find? fun c => c.1 = name).map Prod.snd

/-- Take up a component's report in exchange for its last one. -/
def report (b : HealthBoard) (name : String) (health : ComponentHealth) : HealthBoard :=
  { b with components := Order.put Prod.fst (name, health) b.components }

def mark (b : HealthBoard) (ready : Bool) : HealthBoard := { b with marked := ready }

def status (b : HealthBoard) : ComponentStatus :=
  ComponentStatus.worst (b.components.map fun c => c.2.status)

def unreadiness (b : HealthBoard) : Option String :=
  if !b.marked then some "Resource mappings not yet loaded"
  else if !b.status.isOperational then some "Critical component unhealthy"
  else none

def isReady (b : HealthBoard) : Bool := b.unreadiness.isNone

def readiness (b : HealthBoard) : ReadinessReport := ⟨b.isReady, b.unreadiness⟩

theorem get?_report (b : HealthBoard) (name : String) (health : ComponentHealth) (other : String) :
    (b.report name health).get? other = if name = other then some health else b.get? other := by
  simp only [get?, report, Order.find?_put]
  split <;> rfl

end HealthBoard
end ObjectMetrics
