import ObjectMetrics.Catalog.Singular
import ObjectMetrics.Proofs.Catalog.Reports

/-! Kinds in a version. A mapping serves the versions that its resource was reported under with its own
kind, so a kind is never answered in a version that discovery has not reported for it. -/
namespace ObjectMetrics.Catalog

theorem kindOf_eq_ok_iff {c : Catalog} {preferred : List String} {ref : ResourceReference}
    {gvk : GroupVersionKind} : c.kindOf preferred ref = .ok gvk ↔
      ∃ m, c.resolve preferred ref = .ok m ∧
        ⟨m.group,if ref.version = "" then m.version else ref.version,m.kind⟩ = gvk := by
  rw [kindOf]
  cases c.resolve preferred ref with
  | error fault => simp [Except.map]
  | ok m =>
    by_cases opened : ref.version = "" <;>
      simp [Except.map,opened,Mapping.groupVersionKind]

variable {singularize : String → String} {generation : Nat} {reports : List ResourceReport}

theorem exists_report_of_version {m : Mapping}
    (member : m ∈ (build singularize generation reports).1.mappings) {version : String}
    (served : version ∈ m.versions) :
    ∃ r ∈ reports, r.groupResource = m.groupResource ∧ r.kind = m.kind ∧ r.version = version := by
  obtain ⟨first,later,listed,_,summary⟩ := firstReport_of_mem member
  rw [summary.versions,List.mem_eraseDups,← listed] at served
  obtain ⟨r,among,rfl⟩ := List.mem_map.mp served
  obtain ⟨reported,agrees⟩ := List.mem_filter.mp among
  obtain ⟨there,resource,_⟩ := mem_reportsOf_iff.mp reported
  have kind : r.kind = first.kind := by
    simp only [ResourceReport.agreesWith,Bool.and_eq_true,decide_eq_true_eq] at agrees
    exact agrees.1
  exact ⟨r,there,resource,kind.trans summary.kind.symm,rfl⟩

/-- The kind of a known resource is known, although another resource may stand for it. -/
theorem exists_ofKind_of_mem {m : Mapping}
    (member : m ∈ (build singularize generation reports).1.mappings) :
    ∃ owner, (build singularize generation reports).1.ofKind m.groupKind = .ok owner ∧
      owner.groupKind = m.groupKind := by
  obtain ⟨owner,_,kind,_,found⟩ | ⟨absent,_⟩ :=
    ofKind_build_cases singularize generation reports m.groupKind
  · exact ⟨owner,found,kind⟩
  · exact absurd rfl (absent m member)

/-- A kind that is answered for a reference was reported in this version for the resource that the
reference means. The version is the one asked for, if any was, and the kind leads back to a resource
of the same group and kind. -/
theorem build_kindOf_reported (singularize : String → String) (generation : Nat)
    (reports : List ResourceReport) (preferred : List String) (ref : ResourceReference)
    (gvk : GroupVersionKind)
    (known : (build singularize generation reports).1.kindOf preferred ref = .ok gvk) :
    let c := (build singularize generation reports).1
    (∃ m, c.resolve preferred ref = .ok m ∧ ∃ r ∈ reports,
      r.group = gvk.group ∧ r.version = gvk.version ∧ r.kind = gvk.kind ∧
      Text.lower r.resource = m.plural) ∧
    (ref.version ≠ "" → gvk.version = ref.version) ∧
    ∃ owner, c.ofKind ⟨gvk.group,gvk.kind⟩ = .ok owner ∧
      owner.group = gvk.group ∧ owner.kind = gvk.kind := by
  intro c
  have wf : c.WellFormed := wellFormed_build singularize generation reports
  obtain ⟨m,resolved,rfl⟩ := kindOf_eq_ok_iff.mp known
  have candidate : m ∈ c.candidates ref := (wf.resolve_eq_ok_iff.mp resolved).1
  obtain ⟨⟨member,_⟩,_,serves⟩ := wf.mem_candidates_iff.mp candidate
  refine ⟨⟨m,resolved,?_⟩,fun asked => if_neg asked,?_⟩
  · have served : (if ref.version = "" then m.version else ref.version) ∈ m.versions := by
      by_cases opened : ref.version = ""
      · rw [if_pos opened]
        exact List.mem_cons_self
      · simpa [opened,Mapping.serves] using serves
    obtain ⟨r,there,resource,kind,version⟩ := exists_report_of_version member served
    obtain ⟨group,plural⟩ := GroupResource.mk.inj resource
    exact ⟨r,there,group,version,kind,plural⟩
  · obtain ⟨owner,found,same⟩ := exists_ofKind_of_mem member
    obtain ⟨group,kind⟩ := GroupKind.mk.inj same
    exact ⟨owner,found,group,kind⟩

theorem build_kindOf_reported_older :
    let reports : List ResourceReport := [⟨"apps","v1","mirrors",true,"Deployment",some "mirror"⟩,
      ⟨"apps","v1","Deployments",true,"Deployment",none⟩,
      ⟨"apps","v2","deployments",true,"Rollout",none⟩,
      ⟨"apps","v1beta1","deployments",true,"Deployment",none⟩]
    let c := (build Inflection.builtin.singular 1 reports).1
    let ref : ResourceReference := ⟨"","v1beta1","DEPLOYMENT"⟩
    let gvk : GroupVersionKind := ⟨"apps","v1beta1","Deployment"⟩
    c.kindOf [] ref = .ok gvk ∧
    (∃ m, c.resolve [] ref = .ok m ∧ ∃ r ∈ reports,
      r.group = gvk.group ∧ r.version = gvk.version ∧ r.kind = gvk.kind ∧
      Text.lower r.resource = m.plural) ∧
    (ref.version ≠ "" → gvk.version = ref.version) ∧
    ∃ owner, c.ofKind ⟨gvk.group,gvk.kind⟩ = .ok owner ∧
      owner.group = gvk.group ∧ owner.kind = gvk.kind := by
  intro reports c ref gvk
  have known : c.kindOf [] ref = .ok gvk := by decide +kernel
  exact ⟨known,build_kindOf_reported Inflection.builtin.singular 1 reports [] ref gvk known⟩

end ObjectMetrics.Catalog
