import ObjectMetrics.Adapter.Metrics
import ObjectMetrics.Adapter.Schedule

/-! Runs of one adapter, whose operations come one after another. Whatever an operation is, it asks
discovery for one listing at most and stores one record at most, and the two histories say what a run
has made of the mappings and of the store. -/
namespace ObjectMetrics

inductive Operation where
  | setReports (reports : List ResourceReport)
  | addReport (report : ResourceReport)
  | setDiscoveryFailure (message : Option String)
  | addObject (item : InventoryItem)
  | setInventoryFailure (message : Option String)
  | setClock (now : Instant)
  | reportHealth (name : String) (health : ComponentHealth)
  | regenerate
  | tick (watchers : Watchers)
  | normalize (request : MetricRequest)
  | write (request : MetricRequest) (key : ObjectKey) (value : Float) (labels : LabelSet)
  | get (request : MetricRequest) (key : ObjectKey) (selector : Selector)
  | select (request : MetricRequest) (ns : String) (objects selector : Selector)

def Operation.request? : Operation → Option MetricRequest
  | .normalize request | .write request .. | .get request .. | .select request .. => some request
  | _ => none

abbrev Listing := Except Failure (List ResourceReport)

namespace Adapter

def perform (a : Adapter) : Operation → Adapter
  | .setReports reports => { a with discovery := a.discovery.setReports reports }
  | .addReport report => { a with discovery := a.discovery.addReport report }
  | .setDiscoveryFailure message => { a with discovery := a.discovery.setFailure message }
  | .addObject item => { a with inventory := a.inventory.add item }
  | .setInventoryFailure message => { a with inventory := a.inventory.setFailure message }
  | .setClock now => { a with clock := now }
  | .reportHealth name health => { a with health := a.health.report name health }
  | .regenerate => a.regenerate.2
  | .tick watchers => (a.tick watchers).2
  | .normalize request => (a.normalize request).2
  | .write request key value labels => (a.write request key value labels).2
  | .get request key selector => (a.get request key selector).2
  | .select request ns objects selector => (a.select request ns objects selector).2

def run (a : Adapter) (ops : List Operation) : Adapter := ops.foldl perform a

/-- What a run shows to an observer that looks at each operation in the state it meets. -/
def collect {β : Type} (observe : Adapter → Operation → Option β) : Adapter → List Operation → List β
  | _, [] => []
  | a, op :: ops => (observe a op).toList ++ collect observe (a.perform op) ops

/-- Whether a request names an unknown resource and makes the adapter regenerate. -/
def misses (a : Adapter) (request : MetricRequest) : Bool :=
  match a.normalizeNow request with
  | .ok _ => false
  | .error fault => fault.isNotFound && a.settings.retryOnMiss

def listing? (a : Adapter) : Operation → Option Listing
  | .regenerate | .tick _ => some a.discovery.listing
  | .normalize request | .write request .. | .get request .. | .select request .. =>
    if a.misses request then some a.discovery.listing else none
  | _ => none

def record? (a : Adapter) : Operation → Option MetricRecord
  | .write request key value labels =>
    (a.normalize request).1.toOption.map fun n => ⟨n.identity,key,value,labels,a.clock⟩
  | _ => none

def listings (a : Adapter) (ops : List Operation) : List Listing := a.collect listing? ops

def writes (a : Adapter) (ops : List Operation) : List MetricRecord := a.collect record? ops

theorem mem_collect_iff {β : Type} {observe : Adapter → Operation → Option β} {a : Adapter}
    {ops : List Operation} {x : β} : x ∈ a.collect observe ops ↔
      ∃ before op after, ops = before ++ op :: after ∧ observe (a.run before) op = some x := by
  induction ops generalizing a with
  | nil => simp [collect]
  | cons first ops ih =>
    rw [collect,List.mem_append,Option.mem_toList,ih]
    constructor
    · rintro (now | ⟨before,op,after,rfl,later⟩)
      · exact ⟨[],first,ops,rfl,now⟩
      · exact ⟨first :: before,op,after,rfl,later⟩
    · rintro ⟨before,op,after,split,shown⟩
      cases before with
      | nil =>
        obtain ⟨rfl,rfl⟩ := List.cons.inj split
        exact .inl shown
      | cons _ before =>
        obtain ⟨rfl,rest⟩ := List.cons.inj split
        exact .inr ⟨before,op,after,rest,shown⟩

/-- A part of the adapter that the operations of a run change only through what they show is, after the
run, what the shown history makes of it. -/
theorem view_run_of_mem {β σ : Type} {view : Adapter → σ} {observe : Adapter → Operation → Option β}
    {update : σ → β → σ} {ops : List Operation}
    (step : ∀ op ∈ ops, ∀ a, view (a.perform op) = (observe a op).elim (view a) (update (view a)))
    (a : Adapter) : view (a.run ops) = (a.collect observe ops).foldl update (view a) := by
  induction ops generalizing a with
  | nil => rfl
  | cons op ops ih =>
    obtain ⟨first,later⟩ := List.forall_mem_cons.mp step
    have rest : view (a.run (op :: ops)) = _ := ih later (a.perform op)
    rw [rest,first,collect,List.foldl_append]
    cases observe a op <;> rfl

theorem view_run {β σ : Type} {view : Adapter → σ} {observe : Adapter → Operation → Option β}
    {update : σ → β → σ}
    (step : ∀ a op, view (a.perform op) = (observe a op).elim (view a) (update (view a)))
    (a : Adapter) (ops : List Operation) :
    view (a.run ops) = (a.collect observe ops).foldl update (view a) :=
  view_run_of_mem (fun op _ a => step a op) a

/-! What single operations leave behind. -/

theorem misses_of_ok {a : Adapter} {request : MetricRequest} {n : Normalized}
    (known : a.normalizeNow request = .ok n) : a.misses request = false := by
  rw [misses,known]

theorem misses_of_error {a : Adapter} {request : MetricRequest} {fault : Fault}
    (failed : a.normalizeNow request = .error fault) :
    a.misses request = (fault.isNotFound && a.settings.retryOnMiss) := by
  rw [misses,failed]

/-- A request that misses is looked up in what a regeneration leaves, unless that fails. -/
theorem normalize_eq (a : Adapter) (request : MetricRequest) : a.normalize request =
    if a.misses request then
      (a.regenerate.1.bind fun _ => a.regenerate.2.normalizeNow request,a.regenerate.2)
    else (a.normalizeNow request,a) := by
  unfold normalize misses
  cases a.normalizeNow request with
  | ok n => rfl
  | error fault =>
    dsimp only
    split
    · rcases a.regenerate with ⟨failed | generation,b⟩ <;> rfl
    · rfl

theorem normalize_of_ok {a : Adapter} {request : MetricRequest} {n : Normalized}
    (known : a.normalizeNow request = .ok n) : a.normalize request = (.ok n,a) := by
  rw [normalize_eq,misses_of_ok known,known]
  rfl

theorem normalizeNow_of_normalize {a : Adapter} {request : MetricRequest} {n : Normalized}
    (known : (a.normalize request).1 = .ok n) :
    (a.normalize request).2.normalizeNow request = .ok n := by
  rw [normalize_eq] at known ⊢
  revert known
  cases a.misses request with
  | false => exact id
  | true =>
    rcases a.regenerate with ⟨failed | generation,b⟩
    · nofun
    · exact id

theorem normalize_state (a : Adapter) (request : MetricRequest) :
    (a.normalize request).2 = if a.misses request then a.regenerate.2 else a := by
  rw [normalize_eq]
  split <;> rfl

theorem view_normalize {σ : Type} (view : Adapter → σ) {a : Adapter}
    (kept : view a.regenerate.2 = view a) (request : MetricRequest) :
    view (a.normalize request).2 = view a := by
  rw [normalize_state]
  split
  · exact kept
  · rfl

theorem write_state (a : Adapter) (request : MetricRequest) (key : ObjectKey) (value : Float)
    (labels : LabelSet) :
    (a.write request key value labels).2 = ((a.normalize request).1.toOption).elim
      (a.normalize request).2 fun n =>
        let b := (a.normalize request).2.record
          ⟨n.identity,key,value,labels,(a.normalize request).2.clock⟩
        { b with telemetry := b.telemetry.countWrite b.store.size } := by
  unfold write
  rcases a.normalize request with ⟨fault | n,b⟩ <;> rfl

theorem get_state (a : Adapter) (request : MetricRequest) (key : ObjectKey) (selector : Selector) :
    (a.get request key selector).2 = (a.normalize request).2 := by
  unfold get
  rcases a.normalize request with ⟨fault | n,b⟩ <;> rfl

/-- A selection changes nothing after its normalization but the lister's count of calls. -/
theorem select_state (a : Adapter) (request : MetricRequest) (ns : String)
    (objects selector : Selector) :
    ∃ inventory, (a.select request ns objects selector).2 =
      { (a.normalize request).2 with inventory } := by
  unfold select
  rcases a.normalize request with ⟨fault | n,b⟩
  · exact ⟨b.inventory,rfl⟩
  · exact ⟨_,rfl⟩

/-- What neither storing a record nor listing objects changes is, after an operation on a request,
what the normalization of that request has left. -/
theorem view_perform_request {σ : Type} {view : Adapter → σ}
    (stored : ∀ b : Adapter, ∀ r,
      view { b.record r with telemetry := b.telemetry.countWrite (b.record r).store.size } = view b)
    (listed : ∀ b : Adapter, ∀ inventory, view { b with inventory } = view b) (a : Adapter)
    {op : Operation} {request : MetricRequest} (asks : op.request? = some request) :
    view (a.perform op) = view (a.normalize request).2 := by
  cases op with
  | normalize request =>
    obtain rfl := Option.some.inj asks
    rfl
  | write request key value labels =>
    obtain rfl := Option.some.inj asks
    rw [perform,write_state]
    cases (a.normalize request).1.toOption with
    | none => rfl
    | some n => exact stored _ _
  | get request key selector =>
    obtain rfl := Option.some.inj asks
    rw [perform,get_state]
  | select request ns objects selector =>
    obtain rfl := Option.some.inj asks
    obtain ⟨inventory,left⟩ := select_state a request ns objects selector
    rw [perform,left]
    exact listed _ _
  | _ => contradiction

theorem settings_perform (a : Adapter) (op : Operation) : (a.perform op).settings = a.settings := by
  cases op with
  | normalize request | write request | get request | select request =>
    exact (view_perform_request (fun _ _ => rfl) (fun _ _ => rfl) a rfl).trans
      (view_normalize settings rfl request)
  | _ => rfl

theorem settings_run (a : Adapter) (ops : List Operation) : (a.run ops).settings = a.settings := by
  induction ops generalizing a with
  | nil => rfl
  | cons op ops ih => exact (ih (a.perform op)).trans (settings_perform a op)

end Adapter

end ObjectMetrics
