import ObjectMetrics.Proofs.Adapter.Publication
import ObjectMetrics.Proofs.Catalog.Normalization

/-! What becomes of a request for an unknown resource. The adapter regenerates once and looks again; what
it finds then is the answer, and no other lookup makes it regenerate. -/
namespace ObjectMetrics.Adapter

variable {a : Adapter} {request : MetricRequest}

theorem misses_of_off (off : a.settings.retryOnMiss = false) : a.misses request = false := by
  unfold misses
  split
  · rfl
  · rw [off,Bool.and_false]

/-- A miss is one attempt: its listing is published, or its failure reported and answered. -/
theorem mapper_normalize_of_missed (missed : a.misses request) :
    (a.normalize request).2.mapper = a.mapper.take a.discovery.listing := by
  rw [mapper_normalize,if_pos missed]
  rfl

theorem normalize_of_failed (missed : a.misses request) {failure : Failure}
    (failed : a.discovery.listing = .error failure) :
    (a.normalize request).1 = .error (.transient .discovery failure) := by
  have outcome : a.regenerate.1 = .error (.transient .discovery failure) := by
    rw [regenerate,failed]
    rfl
  rw [normalize_eq,if_pos missed,outcome]
  rfl

theorem normalize_of_answered (missed : a.misses request) {reports : List ResourceReport}
    (answered : a.discovery.listing = .ok reports) : (a.normalize request).1 =
      (Catalog.build a.settings.inflection.singular (a.catalog.generation + 1) reports).1.normalize
        a.settings.preferredGroups request := by
  have outcome : a.regenerate.1 = .ok (a.catalog.generation + 1) := by
    rw [regenerate,answered]
    rfl
  have published : a.regenerate.2.catalog = _ := catalog_perform a .regenerate
  rw [normalize_eq,if_pos missed,outcome]
  change a.regenerate.2.catalog.normalize a.settings.preferredGroups request = _
  rw [published,listing?,answered]

theorem calls_perform_le (a : Adapter) (op : Operation) :
    (a.perform op).discovery.calls ≤ a.discovery.calls + 1 := by
  have calls : (a.perform op).discovery.calls = _ := congrArg Mapper.calls (mapper_perform a op)
  rw [calls]
  cases a.listing? op with
  | none => exact Nat.le_succ _
  | some listing => exact Nat.le_refl _

/-- A request that is understood or ambiguous is answered as it is, and so is every request where the
adapter does not retry. Any other is tried again after one regeneration: if that fails, its failure
is the answer and the catalog stays; if not, the answer is that of the new catalog, whatever it
is. So no operation calls discovery twice. -/
theorem normalize_retries_once (a : Adapter) (request : MetricRequest) :
    let now := a.normalizeNow request
    let answer := (a.normalize request).1
    let after := (a.normalize request).2
    let settled := (∃ n, now = .ok n) ∨ ∃ names, now = .error (.ambiguous request.resource names)
    (settled ∨ now = .error (.resourceNotFound request.resource)) ∧
    (settled ∨ a.settings.retryOnMiss = false → answer = now ∧ after = a) ∧
    (¬ settled → a.settings.retryOnMiss = true →
      after.discovery.calls = a.discovery.calls + 1 ∧
      after.registry.attempts = a.registry.attempts + 1 ∧
      match a.discovery.listing with
      | .error failure =>
        answer = .error (.transient .discovery failure) ∧ after.catalog = a.catalog ∧
        after.telemetry.regenerationErrors = a.telemetry.regenerationErrors + 1
      | .ok reports =>
        let published :=
          (Catalog.build a.settings.inflection.singular (a.catalog.generation + 1) reports).1
        answer = published.normalize a.settings.preferredGroups request ∧
        after.catalog = published ∧
        after.telemetry.regenerationErrors = a.telemetry.regenerationErrors) ∧
    ∀ op : Operation, op.request? = some request →
      (a.perform op).discovery.calls ≤ a.discovery.calls + 1 := by
  intro now answer after settled
  have outcomes : settled ∨ now = .error (.resourceNotFound request.resource) :=
    or_assoc.mpr (a.catalog.normalize_cases a.settings.preferredGroups request)
  refine ⟨outcomes,?_,?_,fun op _ => calls_perform_le a op⟩
  · intro still
    have kept : a.misses request = false := by
      obtain (⟨n,known⟩ | ⟨names,ambiguous⟩) | off := still
      · exact misses_of_ok known
      · exact misses_of_error ambiguous
      · exact misses_of_off off
    have unchanged : a.normalize request = (a.normalizeNow request,a) := by
      rw [normalize_eq,kept]
      rfl
    exact Prod.mk.inj unchanged
  · intro unsettled retries
    have missed : a.misses request = true := by
      rw [misses_of_error (outcomes.resolve_left unsettled),retries]
      rfl
    have left : after.mapper = a.mapper.take a.discovery.listing :=
      mapper_normalize_of_missed missed
    cases listed : a.discovery.listing with
    | error failure =>
      rw [listed] at left
      exact ⟨congrArg Mapper.calls left,congrArg (fun m => m.registry.attempts) left,
        normalize_of_failed missed listed,congrArg (fun m => m.registry.catalog) left,
        congrArg Mapper.failures left⟩
    | ok reports =>
      rw [listed] at left
      exact ⟨congrArg Mapper.calls left,congrArg (fun m => m.registry.attempts) left,
        normalize_of_answered missed listed,congrArg (fun m => m.registry.catalog) left,
        congrArg Mapper.failures left⟩

end ObjectMetrics.Adapter
