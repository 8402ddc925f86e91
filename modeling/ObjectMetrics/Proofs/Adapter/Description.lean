import ObjectMetrics.Proofs.Adapter.LastWrite
import ObjectMetrics.Proofs.Catalog.Growth

/-! Stored records as discovery grows. A resource that the catalog knows keeps its mapping and its kind
however many reports are added, so a record of it is described as before. -/
namespace ObjectMetrics.Adapter

/-- Of an adapter's catalog and settings only the kind of a record's resource shows in its description. -/
theorem describe_of_kindOf {a b : Adapter} {r : MetricRecord} {gvk : GroupVersionKind}
    (first : a.catalog.kindOf a.settings.preferredGroups r.identity.resource.anyVersion = .ok gvk)
    (second : b.catalog.kindOf b.settings.preferredGroups r.identity.resource.anyVersion = .ok gvk)
    (selector : Selector) :
    ∃ value, a.describe selector r = .ok value ∧ b.describe selector r = .ok value := by
  rw [describe,describe,first,second]
  exact ⟨_,rfl,rfl⟩

/-- Reports that are added to a listing leave a known resource its mapping, but for versions after
those that it has, and its kind the resource that stands for it. With a group, or with the core group
preferred to all others, the resource keeps the kind that is found by its name, and its records are
described as before. -/
theorem known_resource_kept (singularize : String → String) (generation later : Nat)
    (reports more : List ResourceReport) (m : Mapping)
    (member : m ∈ (Catalog.build singularize generation reports).1.mappings) :
    let c := (Catalog.build singularize generation reports).1
    let d := (Catalog.build singularize later (reports ++ more)).1
    (∃ n, d.get? ⟨m.group,m.plural⟩ = some n ∧ n.kind = m.kind ∧ n.scope = m.scope ∧
      n.singular = m.singular ∧ n.version = m.version ∧
      m.version :: m.laterVersions <+: n.version :: n.laterVersions) ∧
    (∃ old new, c.ofKind ⟨m.group,m.kind⟩ = .ok old ∧ d.ofKind ⟨m.group,m.kind⟩ = .ok new ∧
      new.group = old.group ∧ new.plural = old.plural) ∧
    ∀ preferred : List String, m.group ≠ "" ∨ preferred.head? = some "" →
      c.kindOf preferred ⟨m.group,"",m.plural⟩ = .ok ⟨m.group,m.version,m.kind⟩ ∧
      d.kindOf preferred ⟨m.group,"",m.plural⟩ = .ok ⟨m.group,m.version,m.kind⟩ ∧
      ∀ a b : Adapter, a.catalog = c → b.catalog = d → a.settings.preferredGroups = preferred →
        b.settings.preferredGroups = preferred → ∀ r : MetricRecord,
          r.identity.resource = ⟨m.group,m.plural⟩ → ∀ selector, ∃ value,
            a.describe selector r = .ok value ∧ b.describe selector r = .ok value := by
  intro c d
  have wf : c.WellFormed := Catalog.wellFormed_build singularize generation reports
  have also : d.WellFormed := Catalog.wellFormed_build singularize later (reports ++ more)
  let gr : GroupResource := ⟨m.group,m.plural⟩
  have found : c.get? gr = some m := wf.get?_eq_some_iff.mpr ⟨member,rfl⟩
  obtain ⟨n,there,grows⟩ := Catalog.get?_build_append found later more
  obtain ⟨old,new,owner,still,grown⟩ := Catalog.ofKind_build_append found later more
  refine ⟨?_,⟨old,new,owner,still,GroupResource.mk.inj grown.groupResource⟩,
    fun preferred decided => ?_⟩
  · have versions := grows.versions_prefix
    obtain ⟨added,rfl⟩ := grows
    exact ⟨_,there,rfl,rfl,rfl,rfl,versions⟩
  · have first : c.kindOf preferred gr.anyVersion = .ok m.groupVersionKind :=
      wf.kindOf_of_decided found decided
    have second : d.kindOf preferred gr.anyVersion = .ok m.groupVersionKind := by
      rw [also.kindOf_of_decided there decided,grows.groupVersionKind]
    refine ⟨first,second,fun a b published latest same alike r stored selector => ?_⟩
    rw [← published,← same,← show r.identity.resource = gr from stored] at first
    rw [← latest,← alike,← show r.identity.resource = gr from stored] at second
    exact describe_of_kindOf first second selector

theorem known_resource_kept_without_alias :
    let reports : List ResourceReport := [⟨"","v1","Pods",true,"Pod",none⟩]
    let more : List ResourceReport := [⟨"metrics.k8s.io","v1beta1","pods",true,"PodMetrics",none⟩,
      ⟨"","v1","mirrors",true,"Pod",none⟩,⟨"","v2","pods",true,"Pod",none⟩,
      ⟨"","v3","pods",false,"Pod",none⟩]
    let m : Mapping := ⟨"","pods","pod","Pod",.namespaced,"v1",[]⟩
    let d := (Catalog.build Inflection.builtin.singular 2 (reports ++ more)).1
    m ∈ (Catalog.build Inflection.builtin.singular 1 reports).1.mappings ∧
    d.kindOf [""] ⟨"","","pods"⟩ = .ok ⟨"","v1","Pod"⟩ ∧
    d.get? ⟨"","pods"⟩ = some { m with laterVersions := ["v2"] } ∧
    d.ofKind ⟨"","Pod"⟩ = .ok { m with laterVersions := ["v2"] } ∧
    d.resolve [""] ⟨"","","pod"⟩ = .error (.resourceNotFound ⟨"","pod"⟩) := by
  intro reports more m d
  have member : m ∈ (Catalog.build Inflection.builtin.singular 1 reports).1.mappings := by
    decide +kernel
  obtain ⟨_,_,kept⟩ := known_resource_kept Inflection.builtin.singular 1 2 reports more m member
  refine ⟨member,(kept [""] (.inr rfl)).2.1,?_⟩
  decide +kernel

end ObjectMetrics.Adapter
