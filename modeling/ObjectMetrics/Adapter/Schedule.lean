import ObjectMetrics.Adapter.Basic
/-!
Timed regeneration. A tick regenerates the catalog and tells the health board and the log what came
of it. A schedule ticks at once and then at its interval; a tick that comes late puts off the next
one, so that ticks never pile up.
-/
namespace ObjectMetrics

/-- Whom a tick tells about its outcome, apart from the metrics endpoint. -/
structure Watchers where
  health : Bool
  log : Bool
deriving DecidableEq, Repr

/-- Take up the outcome of a tick in the health board. A failed tick leaves the ready mark alone:
the adapter goes on serving from the last catalog. -/
def HealthBoard.noteTick (b : HealthBoard) (outcome : Outcome) : HealthBoard :=
  match outcome with
  | .ok _ => (b.report mapper .healthy).mark true
  | .error fault => b.report mapper (.degraded ("regeneration failed: " ++ fault.message))

namespace Adapter

def tick (a : Adapter) (watchers : Watchers) : Outcome × Adapter :=
  let (outcome, a) := a.regenerate
  let telemetry := a.telemetry.observeRegeneration
  let telemetry := match outcome with
    | .ok generation =>
      let shown := telemetry.showCatalog a.catalog
      if watchers.log then shown.log [.regenerated a.settings.name generation a.catalog.size]
      else shown
    | .error _ => telemetry
  let health := if watchers.health then a.health.noteTick outcome else a.health
  (outcome, { a with telemetry, health })

def ticks (watchers : Watchers) : Nat → Adapter → Adapter
  | 0, a => a
  | n + 1, a => ticks watchers n (a.tick watchers).2

end Adapter

structure Timer where
  interval : Nat
  due : Nat
deriving DecidableEq, Repr

namespace Timer

/-- How late a tick may come and still count as punctual. -/
def grace : Nat := 5

def horizon : Nat := 30 * 365 * 86400000

def period (t : Timer) : Nat := min t.interval horizon

/-- How often the timer goes off at a point in time, and the timer after that. A punctual tick keeps
the rhythm; after a late one the next is due a whole period later. -/
def fire (t : Timer) (now : Nat) : Nat × Timer :=
  if now < t.due then (0, t)
  else if t.due + grace < now then (1, { t with due := now + t.period })
  else
    let n := (now - t.due) / t.period + 1
    (n, { t with due := t.due + n * t.period })

end Timer

structure Schedule where
  watchers : Watchers
  now : Nat
  timer : Timer
  adapter : Adapter

namespace Schedule

def advance (s : Schedule) (milliseconds : Nat) : Schedule :=
  let now := s.now + milliseconds
  let (n, timer) := s.timer.fire now
  { s with now, timer, adapter := s.adapter.ticks s.watchers n }

def start? (watchers : Watchers) (interval : Nat) (a : Adapter) : Option Schedule :=
  if interval = 0 then none else some (advance ⟨watchers, 0, ⟨interval, 0⟩, a⟩ 0)

/-- The schedule after its start and after each span of time, and at last the adapter. -/
def run (s : Schedule) : List Nat → List Schedule
  | [] => [s]
  | span :: spans => s :: run (s.advance span) spans

end Schedule
end ObjectMetrics
