import Mathlib.Data.List.Basic
import ObjectMetrics.Proofs.Adapter.Publication

/-! When the adapter is ready. The health board takes note of ticks only, so the adapter is ready once a
tick has published a catalog. A catalog that was published for a caller does not show there. -/
namespace ObjectMetrics

theorem ComponentStatus.isOperational_worse (s t : ComponentStatus) :
    (s.worse t).isOperational = (s.isOperational && t.isOperational) := by
  cases s <;> cases t <;> rfl

theorem ComponentStatus.isOperational_worst_iff {statuses : List ComponentStatus} :
    (worst statuses).isOperational ↔ ∀ s ∈ statuses, s.isOperational := by
  have from_any (s : ComponentStatus) : (statuses.foldl worse s).isOperational ↔
      s.isOperational ∧ ∀ t ∈ statuses, t.isOperational := by
    induction statuses generalizing s with
    | nil => simp
    | cons t statuses ih =>
      rw [List.foldl_cons,ih,isOperational_worse,Bool.and_eq_true,List.forall_mem_cons,and_assoc]
  exact (from_any .healthy).trans (and_iff_right rfl)

namespace HealthBoard

theorem isOperational_status_iff {b : HealthBoard} :
    b.status.isOperational ↔ ∀ c ∈ b.components, c.2.status.isOperational := by
  rw [status,ComponentStatus.isOperational_worst_iff,List.forall_mem_map]

theorem isReady_iff {b : HealthBoard} :
    b.isReady ↔ b.marked ∧ ∀ c ∈ b.components, c.2.status.isOperational := by
  rw [← isOperational_status_iff,isReady,unreadiness]
  cases b.marked <;> cases b.status.isOperational <;> decide

theorem marked_noteTick (b : HealthBoard) (outcome : Outcome) :
    (b.noteTick outcome).marked ↔ b.marked ∨ ∃ generation, outcome = .ok generation := by
  cases outcome <;> simp [noteTick,mark,report]

theorem operational_noteTick {b : HealthBoard} (fit : ∀ c ∈ b.components, c.2.status.isOperational)
    (outcome : Outcome) : ∀ c ∈ (b.noteTick outcome).components, c.2.status.isOperational := by
  intro c member
  cases outcome with
  | ok generation =>
    rcases Order.mem_put member with rfl | old
    · rfl
    · exact fit c old
  | error fault =>
    rcases Order.mem_put member with rfl | old
    · rfl
    · exact fit c old

theorem isReady_foldl_noteTick (outcomes : List Outcome) {b : HealthBoard}
    (fit : ∀ c ∈ b.components, c.2.status.isOperational) :
    (outcomes.foldl noteTick b).isReady ↔ b.marked ∨ ∃ generation, .ok generation ∈ outcomes := by
  induction outcomes generalizing b with
  | nil =>
    rw [List.foldl_nil,isReady_iff,and_iff_left fit]
    simp
  | cons outcome outcomes ih =>
    rw [List.foldl_cons,ih (operational_noteTick fit outcome),marked_noteTick,or_assoc,← exists_or]
    simp only [List.mem_cons,eq_comm]

end HealthBoard

namespace Adapter

/-- The outcome that the health board takes note of, if an operation is a tick that tells it. -/
def noted? (a : Adapter) : Operation → Option Outcome
  | .tick watchers => if watchers.health then some (a.tick watchers).1 else none
  | _ => none

def notes (a : Adapter) (ops : List Operation) : List Outcome := a.collect noted? ops

theorem health_tick (a : Adapter) (watchers : Watchers) : (a.tick watchers).2.health =
    if watchers.health then a.health.noteTick (a.tick watchers).1 else a.health := rfl

/-- Reports from outside apart, an operation changes the health board by what it takes note of. -/
theorem health_perform {op : Operation} (inside : ∀ name health, op ≠ .reportHealth name health)
    (a : Adapter) : (a.perform op).health = (a.noted? op).elim a.health a.health.noteTick := by
  cases op with
  | reportHealth name health => exact absurd rfl (inside name health)
  | tick watchers =>
    rw [perform,health_tick,noted?]
    cases watchers.health <;> rfl
  | normalize request | write request | get request | select request =>
    exact (view_perform_request (fun _ _ => rfl) (fun _ _ => rfl) a rfl).trans
      (view_normalize health rfl request)
  | _ => rfl

theorem listing?_of_noted? {a : Adapter} {op : Operation} {generation : Nat}
    (noted : a.noted? op = some (.ok generation)) : ∃ reports, a.listing? op = some (.ok reports) := by
  cases op with
  | tick watchers =>
    have outcome : (a.registry.publish a.settings.inflection.singular a.discovery.listing).outcome =
        .ok generation := Option.some.inj (Option.ite_none_right_eq_some.mp noted).2
    rw [listing?]
    cases listed : a.discovery.listing with
    | ok reports => exact ⟨reports,rfl⟩
    | error failure => simp [listed,Registry.publish] at outcome
  | _ => contradiction

theorem isReady_run_iff (settings : AdapterSettings) (clock : Instant) (discovery : DiscoverySource)
    {ops : List Operation} (inside : ∀ op ∈ ops, ∀ name health, op ≠ .reportHealth name health) :
    let fresh := start settings clock discovery
    (fresh.run ops).health.isReady ↔ ∃ generation, .ok generation ∈ fresh.notes ops := by
  intro fresh
  have board : (fresh.run ops).health = (fresh.notes ops).foldl HealthBoard.noteTick .empty :=
    view_run_of_mem (fun op member => health_perform (inside op member)) fresh
  rw [board,HealthBoard.isReady_foldl_noteTick _ (by simp [HealthBoard.empty])]
  simp [HealthBoard.empty]

theorem published_of_noted (settings : AdapterSettings) (clock : Instant) (reports : List ResourceReport)
    (ops : List Operation) :
    let fresh := start settings clock (.ofReports reports)
    (∃ generation, .ok generation ∈ fresh.notes ops) → 1 ≤ (fresh.run ops).catalog.generation := by
  rintro fresh ⟨generation,noted⟩
  obtain ⟨before,op,after,rfl,shown⟩ := mem_collect_iff.mp noted
  obtain ⟨latest,listed⟩ := listing?_of_noted? shown
  have answer : latest ∈ answered (fresh.listings (before ++ op :: after)) := by
    refine List.mem_filterMap.mpr ⟨.ok latest,?_,rfl⟩
    exact mem_collect_iff.mpr ⟨before,op,after,rfl,listed⟩
  have count := (follows_run settings clock reports (before ++ op :: after)).generation
  exact count ▸ List.length_pos_of_mem answer

/-- Where nothing but its ticks tells the health board, the adapter is ready once one of them has
published a catalog, and not before there is a catalog. So readiness and publication agree until a
catalog is published for a caller, and from the first tick that publishes one. -/
theorem ready_of_tick (settings : AdapterSettings) (clock : Instant) (reports : List ResourceReport)
    (ops : List Operation) (inside : ∀ op ∈ ops, ∀ name health, op ≠ .reportHealth name health) :
    let fresh := start settings clock (.ofReports reports)
    let a := fresh.run ops
    (a.health.isReady ↔ ∃ generation, .ok generation ∈ fresh.notes ops) ∧
    (a.health.isReady → 1 ≤ a.catalog.generation) ∧
    ((a.health.isReady ↔ 1 ≤ a.catalog.generation) ↔
      a.catalog.generation = 0 ∨ ∃ generation, .ok generation ∈ fresh.notes ops) := by
  intro fresh a
  have ready : a.health.isReady ↔ ∃ generation, .ok generation ∈ fresh.notes ops :=
    isReady_run_iff settings clock (.ofReports reports) inside
  have published := published_of_noted settings clock reports ops
  refine ⟨ready,fun is => published (ready.mp is),?_⟩
  rw [ready]
  constructor
  · intro agree
    rcases Nat.eq_zero_or_pos a.catalog.generation with zero | positive
    · exact .inl zero
    · exact .inr (agree.mpr positive)
  · rintro (zero | ticked)
    · have unpublished : ¬ 1 ≤ a.catalog.generation := by omega
      exact iff_of_false (mt published unpublished) unpublished
    · exact iff_of_true ticked (published ticked)

theorem ready_of_tick_between_failures :
    let fresh := start ⟨"",.builtin,[],true,true,.samples⟩ ⟨0,0⟩
      (.ofReports [⟨"","v1","pods",true,"Pod",none⟩])
    let ops : List Operation := [.setDiscoveryFailure (some "down"),.tick ⟨true,true⟩,
      .setDiscoveryFailure none,.regenerate,.tick ⟨true,false⟩,.setDiscoveryFailure (some "down"),
      .tick ⟨true,true⟩]
    (∀ op ∈ ops, ∀ name health, op ≠ .reportHealth name health) ∧
    .ok 2 ∈ fresh.notes ops ∧ (fresh.run ops).health.isReady := by
  intro fresh ops
  have inside : ∀ op ∈ ops, ∀ name health, op ≠ .reportHealth name health := by simp [ops]
  have noted : .ok 2 ∈ fresh.notes ops := by decide +kernel
  exact ⟨inside,noted,(ready_of_tick _ _ _ ops inside).1.mpr ⟨2,noted⟩⟩

/-- After a tick that failed, a write regenerates and finds its resource. The catalog is published, but
the adapter counts as not ready until the next tick. -/
theorem unready_after_publication :
    let a := (start ⟨"",.builtin,[],true,true,.samples⟩ ⟨0,0⟩
      (.ofReports [⟨"","v1","pods",true,"Pod",none⟩])).run
        [.setDiscoveryFailure (some "down"),.tick ⟨true,true⟩,.setDiscoveryFailure none,
          .write ⟨⟨"","pods"⟩,true,"cpu"⟩ ⟨"default","web-0"⟩ 1 .empty]
    a.catalog.generation = 1 ∧ a.store.size = 1 ∧ ¬ a.health.isReady ∧
      (a.perform (.tick ⟨true,true⟩)).health.isReady := by
  decide +kernel

end Adapter

end ObjectMetrics
