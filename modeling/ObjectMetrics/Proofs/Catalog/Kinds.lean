import ObjectMetrics.Proofs.Catalog.Normalization

/-! The kind of the resource that an identity names. Its mapping is in the catalog, so the lookup of
its kind cannot find nothing; only another group's resource of the same name can be in its way. -/
namespace ObjectMetrics.Catalog

theorem isNotFound_of_resolve {c : Catalog} {preferred : List String} {ref : ResourceReference}
    {fault : Fault} (failed : c.resolve preferred ref = .error fault) :
    fault.isNotFound ↔ c.candidates ref = [] := by
  rw [fault_of_resolve failed]
  by_cases unknown : c.candidates ref = [] <;> simp [unknown,Fault.isNotFound,Fault.faultClass]

theorem kindOf_anyVersion (c : Catalog) (preferred : List String) (gr : GroupResource) :
    c.kindOf preferred gr.anyVersion =
      (c.resolve preferred gr.anyVersion).map Mapping.groupVersionKind := rfl

namespace WellFormed

variable {c : Catalog} {preferred : List String} {request : MetricRequest} {n : Normalized}

theorem get?_of_normalize (wf : c.WellFormed) (normalized : c.normalize preferred request = .ok n) :
    ∃ m, c.get? n.identity.resource = some m := by
  obtain ⟨m,resolved,rfl⟩ := wf.normalize_eq_ok_iff.mp normalized
  have named := (wf.mem_candidates_iff.mp (wf.resolve_eq_ok_iff.mp resolved).1).1
  exact ⟨m,wf.get?_eq_some_iff.mpr ⟨named.1,rfl⟩⟩

/-- A resource in the catalog is looked up by its name, which leaves the core group open. With a
group, or with the core group preferred to all others, its own mapping is found. -/
theorem resolve_of_decided (wf : c.WellFormed) {gr : GroupResource} {m : Mapping}
    (found : c.get? gr = some m) (decided : gr.group ≠ "" ∨ preferred.head? = some "") :
    c.resolve preferred gr.anyVersion = .ok m := by
  obtain ⟨member,rfl⟩ := wf.get?_eq_some_iff.mp found
  have named : c.Names (Text.lower m.plural) m := by
    rw [wf.table.folded m member]
    exact names_plural member
  exact wf.resolve_of_names named rfl rfl decided

theorem kindOf_of_decided (wf : c.WellFormed) {gr : GroupResource} {m : Mapping}
    (found : c.get? gr = some m) (decided : gr.group ≠ "" ∨ preferred.head? = some "") :
    c.kindOf preferred gr.anyVersion = .ok m.groupVersionKind := by
  rw [kindOf_anyVersion,wf.resolve_of_decided found decided]
  rfl

theorem not_isNotFound_of_kindOf (wf : c.WellFormed) {gr : GroupResource} {m : Mapping} {fault : Fault}
    (found : c.get? gr = some m) (failed : c.kindOf preferred gr.anyVersion = .error fault) :
    ¬ fault.isNotFound := by
  obtain ⟨member,rfl⟩ := wf.get?_eq_some_iff.mp found
  have candidate : m ∈ c.candidates m.reference :=
    (wf.mem_candidates_reference_iff member).mpr ⟨names_plural member,.inr rfl⟩
  have unresolved : c.resolve preferred m.reference = .error fault := by
    rw [kindOf_anyVersion] at failed
    change (c.resolve preferred m.reference).map _ = _ at failed
    cases resolved : c.resolve preferred m.reference with
    | error other => simpa [resolved,Except.map] using failed
    | ok other => simp [resolved,Except.map] at failed
  rw [isNotFound_of_resolve unresolved]
  exact List.ne_nil_of_mem candidate

end WellFormed

end ObjectMetrics.Catalog
