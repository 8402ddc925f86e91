import ObjectMetrics.Http.Router
import ObjectMetrics.Proofs.Adapter.Readiness
import ObjectMetrics.Proofs.Order.Keyed

/-! The health board after a run. Ticks and reports from outside each replace the entry of one component,
so the board holds the last report of each; a tick speaks for the component of the mappings only and
never as badly as to stop the adapter. -/
namespace ObjectMetrics

namespace ComponentStatus

theorem isOperational_iff {s : ComponentStatus} : s.isOperational ↔ s ≠ .unhealthy := by
  cases s <;> decide

def rank : ComponentStatus → Nat
  | healthy => 0
  | degraded => 1
  | unhealthy => 2

/-- No status that occurs is worse than `s`, and `s` occurs itself or is as good as can be. -/
structure IsWorst (occurs : ComponentStatus → Prop) (s : ComponentStatus) : Prop where
  bound : ∀ t, occurs t → t.rank ≤ s.rank
  attained : s = healthy ∨ occurs s

theorem IsWorst.unique {occurs : ComponentStatus → Prop} {s t : ComponentStatus}
    (first : IsWorst occurs s) (second : IsWorst occurs t) : s = t := by
  have below {s t : ComponentStatus} (first : IsWorst occurs s) (second : IsWorst occurs t) :
      s.rank ≤ t.rank := by
    rcases first.attained with rfl | occurs
    · exact Nat.zero_le _
    · exact second.bound s occurs
  have same : s.rank = t.rank := Nat.le_antisymm (below first second) (below second first)
  cases s <;> cases t <;> first | rfl | contradiction

theorem IsWorst.worse {occurs : ComponentStatus → Prop} {s : ComponentStatus} (worst : IsWorst occurs s)
    (t : ComponentStatus) : IsWorst (fun u => occurs u ∨ u = t) (s.worse t) := by
  have rank : (s.worse t).rank = max s.rank t.rank := by cases s <;> cases t <;> rfl
  have either : s.worse t = s ∨ s.worse t = t := by cases s <;> cases t <;> decide
  refine ⟨fun u member => ?_,?_⟩
  · rw [rank]
    rcases member with earlier | rfl
    · exact le_max_of_le_left (worst.bound u earlier)
    · exact le_max_right s.rank u.rank
  · rcases either with same | same
    · rw [same]
      exact worst.attained.imp_right .inl
    · exact .inr (.inr same)

theorem isWorst_worst (statuses : List ComponentStatus) : IsWorst (· ∈ statuses) (worst statuses) := by
  induction statuses using List.reverseRecOn with
  | nil => exact ⟨fun _ none => by contradiction,.inl rfl⟩
  | append_singleton statuses last ih =>
    have step : worst (statuses ++ [last]) = (worst statuses).worse last := by simp [worst]
    simpa only [step,List.mem_append,List.mem_singleton] using ih.worse last

theorem worst_of_perm {statuses others : List ComponentStatus} (perm : statuses.Perm others) :
    worst statuses = worst others := by
  have first := isWorst_worst statuses
  simp only [perm.mem_iff] at first
  exact first.unique (isWorst_worst others)

end ComponentStatus

def ComponentHealth.ofTick : Outcome → ComponentHealth
  | .ok _ => .healthy
  | .error fault => .degraded ("regeneration failed: " ++ fault.message)

theorem ComponentHealth.isOperational_ofTick (outcome : Outcome) :
    (ofTick outcome).status.isOperational := by
  cases outcome <;> rfl

namespace HealthBoard

theorem get?_noteTick (b : HealthBoard) (outcome : Outcome) (name : String) :
    (b.noteTick outcome).get? name =
      if mapper = name then some (.ofTick outcome) else b.get? name := by
  cases outcome <;> exact b.get?_report mapper _ name

theorem components_noteTick (b : HealthBoard) (outcome : Outcome) :
    (b.noteTick outcome).components =
      Order.put Prod.fst (mapper,.ofTick outcome) b.components := by
  cases outcome <;> rfl

theorem get?_eq_some_iff {b : HealthBoard} (once : (b.components.map Prod.fst).Nodup) {name : String}
    {health : ComponentHealth} : b.get? name = some health ↔ (name,health) ∈ b.components := by
  simp only [get?,Option.map_eq_some_iff,Order.find?_eq_some_iff once]
  simp

theorem forall_operational_iff {b : HealthBoard} (once : (b.components.map Prod.fst).Nodup) :
    (∀ c ∈ b.components, c.2.status.isOperational) ↔
      ∀ name health, b.get? name = some health → health.status ≠ .unhealthy := by
  simp only [get?_eq_some_iff once,Prod.forall,ComponentStatus.isOperational_iff]

theorem isWorst_status {b : HealthBoard} (once : (b.components.map Prod.fst).Nodup) :
    ComponentStatus.IsWorst (fun s => ∃ name health, b.get? name = some health ∧ health.status = s)
      b.status := by
  have worst := ComponentStatus.isWorst_worst (b.components.map fun c => c.2.status)
  have occurs (s : ComponentStatus) : s ∈ (b.components.map fun c => c.2.status) ↔
      ∃ name health, b.get? name = some health ∧ health.status = s := by
    simp only [List.mem_map,Prod.exists,get?_eq_some_iff once]
  simp only [occurs] at worst
  exact worst

end HealthBoard

namespace Adapter

def healthReport? (a : Adapter) : Operation → Option (String × ComponentHealth)
  | .reportHealth name health => some (name,health)
  | .tick watchers =>
    if watchers.health then some (HealthBoard.mapper,.ofTick (a.tick watchers).1) else none
  | _ => none

def healthReports (a : Adapter) (ops : List Operation) : List (String × ComponentHealth) :=
  a.collect healthReport? ops

/-- An operation changes the entries of the health board exactly by the report that it makes. -/
theorem components_perform (a : Adapter) (op : Operation) : (a.perform op).health.components =
    (a.healthReport? op).elim a.health.components fun c =>
      Order.put Prod.fst c a.health.components := by
  cases op with
  | tick watchers =>
    rw [perform,health_tick,healthReport?]
    cases watchers.health with
    | true => exact a.health.components_noteTick (a.tick watchers).1
    | false => rfl
  | normalize request | write request | get request | select request =>
    exact congrArg HealthBoard.components (health_perform (by simp) a)
  | _ => rfl

theorem components_run (a : Adapter) (ops : List Operation) : (a.run ops).health.components =
    Order.putAll Prod.fst (a.healthReports ops) a.health.components :=
  @view_run _ _ (fun a => a.health.components) _ _ components_perform a ops

/-- An operation sets the ready mark if it is a tick that succeeds and tells the board, and none takes
it back. -/
theorem marked_perform_iff (a : Adapter) (op : Operation) : (a.perform op).health.marked ↔
    a.health.marked ∨ ∃ generation, a.noted? op = some (.ok generation) := by
  by_cases outside : ∃ name health, op = .reportHealth name health
  · obtain ⟨name,health,rfl⟩ := outside
    simp [perform,noted?,HealthBoard.report]
  · rw [health_perform (fun name health same => outside ⟨name,health,same⟩) a]
    cases a.noted? op with
    | none => simp
    | some outcome => simp [HealthBoard.marked_noteTick]

theorem marked_run_iff (a : Adapter) (ops : List Operation) : (a.run ops).health.marked ↔
    a.health.marked ∨ ∃ generation, .ok generation ∈ a.notes ops := by
  induction ops generalizing a with
  | nil => simp [run,notes,collect]
  | cons op ops ih =>
    have rest : a.run (op :: ops) = (a.perform op).run ops := rfl
    have notes : a.notes (op :: ops) = (a.noted? op).toList ++ (a.perform op).notes ops := rfl
    rw [rest,ih,marked_perform_iff,notes,or_assoc,← exists_or]
    simp only [List.mem_append,Option.mem_toList]

/-- Unless something from outside reports a component as unhealthy, no operation does. -/
theorem operational_run {a : Adapter} {ops : List Operation}
    (fit : ∀ name health, .reportHealth name health ∈ ops → health.status.isOperational)
    (before : ∀ c ∈ a.health.components, c.2.status.isOperational) :
    ∀ c ∈ (a.run ops).health.components, c.2.status.isOperational := by
  intro c member
  rw [components_run] at member
  rcases Order.mem_of_mem_putAll _ member with reported | old
  · obtain ⟨front,op,back,rfl,shown⟩ := mem_collect_iff.mp reported
    cases op with
    | reportHealth name health =>
      obtain rfl := Option.some.inj shown
      exact fit name health (by simp)
    | tick watchers =>
      obtain ⟨_,told⟩ := Option.ite_none_right_eq_some.mp shown
      obtain rfl := Option.some.inj told
      exact ComponentHealth.isOperational_ofTick _
    | _ => contradiction
  · exact before c old

theorem health_of_tick {a : Adapter} {watchers : Watchers} (told : watchers.health) :
    let (outcome,b) := a.tick watchers
    (∀ name, name ≠ HealthBoard.mapper → b.health.get? name = a.health.get? name) ∧
    (∀ generation, outcome = .ok generation →
      b.health.get? HealthBoard.mapper = some ⟨.healthy,none⟩ ∧ b.health.marked) ∧
    (∀ fault, outcome = .error fault → b.health.get? HealthBoard.mapper =
      some ⟨.degraded,some ("regeneration failed: " ++ fault.message)⟩) ∧
    (a.health.marked → b.health.marked) := by
  have board := a.health_tick watchers
  rw [if_pos told] at board
  rcases ticked : a.tick watchers with ⟨outcome,b⟩
  rw [ticked] at board
  have entry (name : String) := a.health.get?_noteTick outcome name
  have marked := a.health.marked_noteTick outcome
  dsimp only at board ⊢
  rw [board]
  refine ⟨fun name other => ?_,?_,?_,fun before => marked.mpr (.inl before)⟩
  · rw [entry,if_neg other.symm]
  · rintro generation rfl
    exact ⟨(entry HealthBoard.mapper).trans (if_pos rfl),marked.mpr (.inr ⟨generation,rfl⟩)⟩
  · rintro fault rfl
    exact (entry HealthBoard.mapper).trans (if_pos rfl)

theorem serve_health (a : Adapter) {r : HttpRequest} (asked : r.method = "GET")
    (path : r.path = "/healthz") : (a.serve r).1 = .ofHealth a.health := by
  unfold serve
  rw [path]
  exact congrArg Prod.fst (if_pos asked)

theorem health_page_iff {a : Adapter} {r : HttpRequest} (asked : r.method = "GET")
    (path : r.path = "/healthz") : (a.serve r).1.status ≠ 503 ↔ a.health.status.isOperational := by
  rw [serve_health a asked path,HttpResponse.ofHealth]
  cases a.health.status.isOperational <;> simp

/-- A tick that tells the health board replaces the report of the mappings' component alone, and never
takes back the ready mark. So after any run the board shows the last report of each component; the
adapter is ready if a tick has succeeded and no last report is an unhealthy one; and the status is the
worst of the last reports, in whatever order they are kept. Until a component is reported from outside
as unhealthy, neither readiness nor the health page turns bad, however many ticks fail. -/
theorem health_of_last_reports (settings : AdapterSettings) (clock : Instant)
    (discovery : DiscoverySource) (ops : List Operation) :
    let fresh := start settings clock discovery
    let a := fresh.run ops
    let latest (name : String) := (Order.last? Prod.fst (fresh.healthReports ops) name).map Prod.snd
    (∀ watchers : Watchers, watchers.health →
      let (outcome,b) := a.tick watchers
      (∀ name, name ≠ HealthBoard.mapper → b.health.get? name = a.health.get? name) ∧
      (∀ generation, outcome = .ok generation →
        b.health.get? HealthBoard.mapper = some ⟨.healthy,none⟩ ∧ b.health.marked) ∧
      (∀ fault, outcome = .error fault → b.health.get? HealthBoard.mapper =
        some ⟨.degraded,some ("regeneration failed: " ++ fault.message)⟩) ∧
      (a.health.marked → b.health.marked)) ∧
    (∀ name, a.health.get? name = latest name) ∧
    (a.health.isReady ↔ (∃ generation, .ok generation ∈ fresh.notes ops) ∧
      ∀ name health, latest name = some health → health.status ≠ .unhealthy) ∧
    ComponentStatus.IsWorst (fun s => ∃ name health, latest name = some health ∧ health.status = s)
      a.health.status ∧
    (∀ components, components.Perm a.health.components →
      HealthBoard.status { a.health with components } = a.health.status) ∧
    ∀ later, (∀ name health, .reportHealth name health ∈ later → health.status ≠ .unhealthy) →
      (a.health.isReady → (a.run later).health.isReady) ∧
      ∀ r : HttpRequest, r.method = "GET" → r.path = "/healthz" →
        (a.serve r).1.status ≠ 503 → ((a.run later).serve r).1.status ≠ 503 := by
  intro fresh a latest
  have board : a.health.components = Order.putAll Prod.fst (fresh.healthReports ops) [] :=
    components_run fresh ops
  have once : (a.health.components.map Prod.fst).Nodup := by
    rw [board]
    exact Order.nodup_keys_putAll _ _ List.nodup_nil
  have last (name : String) : a.health.get? name = latest name := by
    rw [HealthBoard.get?,board,Order.find?_putAll,List.find?_nil,Option.or_none]
  have marked : a.health.marked ↔ ∃ generation, .ok generation ∈ fresh.notes ops :=
    (marked_run_iff fresh ops).trans (or_iff_right Bool.false_ne_true)
  refine ⟨fun watchers told => health_of_tick told,last,?_,?_,fun components perm => ?_,
    fun later fit => ?_⟩
  · rw [HealthBoard.isReady_iff,marked,HealthBoard.forall_operational_iff once]
    simp only [last]
  · have worst := HealthBoard.isWorst_status once
    simp only [last] at worst
    exact worst
  · exact ComponentStatus.worst_of_perm (perm.map fun c => c.2.status)
  · simp only [← ComponentStatus.isOperational_iff] at fit
    have kept := @operational_run a later fit
    refine ⟨fun ready => ?_,fun r asked path good => ?_⟩
    · obtain ⟨before,all⟩ := HealthBoard.isReady_iff.mp ready
      exact HealthBoard.isReady_iff.mpr ⟨(marked_run_iff a later).mpr (.inl before),kept all⟩
    · rw [health_page_iff asked path,HealthBoard.isOperational_status_iff] at good ⊢
      exact kept good

theorem health_of_last_reports_failing_ticks :
    let fresh := start ⟨"",.builtin,[],true,true,.samples⟩ ⟨0,0⟩
      (.ofReports [⟨"","v1","pods",true,"Pod",none⟩])
    let told : Watchers := ⟨true,false⟩
    let ops : List Operation := [.reportHealth "store" (.unhealthy "starting"),.tick told,
      .reportHealth "store" .healthy,.setDiscoveryFailure (some "down")]
    let later : List Operation := [.tick told,.reportHealth "store" (.degraded "slow"),.tick told]
    let a := fresh.run ops
    let page : HttpRequest := ⟨"GET","/healthz?verbose",[]⟩
    told.health ∧ (∀ name health, .reportHealth name health ∈ later → health.status ≠ .unhealthy) ∧
    .ok 1 ∈ fresh.notes ops ∧ a.health.isReady ∧ (a.run later).health.isReady ∧
    page.path = "/healthz" ∧ (a.serve page).1.status = 200 ∧
    ((a.run later).serve page).1.status = 200 ∧
    (a.tick told).2.health.get? "mapper" =
      some ⟨.degraded,some "regeneration failed: discovery failed: down"⟩ := by
  intro fresh told ops later a page
  have fit : ∀ name health, .reportHealth name health ∈ later → health.status ≠ .unhealthy := by
    simp [later,ComponentHealth.degraded]
  have noted : .ok 1 ∈ fresh.notes ops := by decide +kernel
  have ready : a.health.isReady := by decide +kernel
  obtain ⟨ticks,_,_,_,_,after⟩ := health_of_last_reports _ _ _ ops
  refine ⟨rfl,fit,noted,ready,(after later fit).1 ready,by decide +kernel,by decide +kernel,
    by decide +kernel,?_⟩
  have failed : (a.tick told).1 = .error (.transient .discovery (.ofCause "down")) := by decide +kernel
  exact (ticks told rfl).2.2.1 _ failed

end Adapter

end ObjectMetrics
