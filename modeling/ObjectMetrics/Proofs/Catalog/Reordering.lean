import ObjectMetrics.Catalog.Singular
import ObjectMetrics.Proofs.Catalog.Listing
import ObjectMetrics.Proofs.Catalog.Resolution
import ObjectMetrics.Proofs.Order.Stable

/-! Listings in another order. Every answer of a catalog comes from the mapping of each resource and the
resource of each kind; the order in which unrelated resources were reported shows in none. -/
namespace ObjectMetrics

namespace Catalog

structure Alike (c d : Catalog) : Prop where
  mapping : ∀ gr, c.get? gr = d.get? gr
  owner : ∀ gk, kindOwner? c.kinds gk = kindOwner? d.kinds gk

namespace WellFormed

variable {c d : Catalog}

theorem nodup_candidates (wf : c.WellFormed) (ref : ResourceReference) :
    (c.candidates ref).Nodup :=
  (wf.candidates_groups ref).imp fun apart same => apart (congrArg Mapping.group same)

theorem resolve_of_perm (wf : c.WellFormed) (also : d.WellFormed) {ref : ResourceReference}
    (perm : (c.candidates ref).Perm (d.candidates ref)) (preferred : List String) :
    c.resolve preferred ref = d.resolve preferred ref := by
  have chosen (m : Mapping) : c.resolve preferred ref = .ok m ↔ d.resolve preferred ref = .ok m := by
    simp only [wf.resolve_eq_ok_iff,also.resolve_eq_ok_iff,perm.mem_iff]
  cases first : c.resolve preferred ref with
  | ok m => exact ((chosen m).mp first).symm
  | error fault =>
    cases second : d.resolve preferred ref with
    | ok m => rw [(chosen m).mpr second] at first; contradiction
    | error other =>
      -- A fault shows whether there are candidates, and then their names in sorted order.
      have empty : c.candidates ref = [] ↔ d.candidates ref = [] := by
        rw [← List.length_eq_zero_iff,perm.length_eq,List.length_eq_zero_iff]
      have names := Order.sortStable_id_of_perm (perm.map fun m => m.groupResource.text)
      rw [fault_of_resolve first,fault_of_resolve second,names]
      simp only [empty]

end WellFormed

namespace Alike

variable {c d : Catalog}

theorem mem_mappings_iff (alike : c.Alike d) (wf : c.WellFormed) (also : d.WellFormed) {m : Mapping} :
    m ∈ c.mappings ↔ m ∈ d.mappings := by
  have first : c.get? m.groupResource = some m ↔ m ∈ c.mappings := by simp [wf.get?_eq_some_iff]
  have second : d.get? m.groupResource = some m ↔ m ∈ d.mappings := by simp [also.get?_eq_some_iff]
  rw [← first,← second,alike.mapping]

theorem perm_candidates (alike : c.Alike d) (wf : c.WellFormed) (also : d.WellFormed)
    (ref : ResourceReference) : (c.candidates ref).Perm (d.candidates ref) := by
  rw [List.perm_ext_iff_of_nodup (wf.nodup_candidates ref) (also.nodup_candidates ref)]
  intro m
  simp only [wf.mem_candidates_iff,also.mem_candidates_iff,Names,alike.mem_mappings_iff wf also]

end Alike

end Catalog

/-- Listings of the same reports in which those of one group and plural keep their order, and those of
one group and kind keep theirs. -/
structure Reordered (reports others : List ResourceReport) : Prop where
  perm : reports.Perm others
  resources : ∀ group plural,
    reports.filter (fun r => r.group = group ∧ Text.lower r.resource = plural) =
      others.filter (fun r => r.group = group ∧ Text.lower r.resource = plural)
  kinds : ∀ group kind, reports.filter (fun r => r.group = group ∧ r.kind = kind) =
    others.filter (fun r => r.group = group ∧ r.kind = kind)

namespace Reordered

variable {reports others : List ResourceReport}

private theorem filter_of_listed {κ : Type} [DecidableEq κ] {key : ResourceReport → κ}
    (perm : reports.Perm others)
    (listed : ∀ r ∈ reports, reports.filter (fun q => key q = key r) =
      others.filter (fun q => key q = key r)) (k : κ) :
    reports.filter (fun q => key q = k) = others.filter (fun q => key q = k) := by
  by_cases there : ∃ r ∈ reports, key r = k
  · obtain ⟨r,member,rfl⟩ := there
    exact listed r member
  · have absent : ∀ q ∈ reports, ¬ key q = k := fun q member same => there ⟨q,member,same⟩
    have missing : ∀ q ∈ others, ¬ key q = k := fun q member => absent q (perm.mem_iff.mpr member)
    rw [List.filter_eq_nil_iff.mpr (by simpa using absent),
      List.filter_eq_nil_iff.mpr (by simpa using missing)]

theorem iff_keys : Reordered reports others ↔ reports.Perm others ∧
    (∀ gr, reports.filter (fun r => r.groupResource = gr) =
      others.filter (fun r => r.groupResource = gr)) ∧
    ∀ gk, reports.filter (fun r => r.groupKind = gk) =
      others.filter (fun r => r.groupKind = gk) := by
  simp only [ResourceReport.groupResource_eq_iff,ResourceReport.groupKind_eq_iff]
  constructor
  · rintro ⟨perm,resources,kinds⟩
    exact ⟨perm,fun gr => resources gr.group gr.resource,fun gk => kinds gk.group gk.kind⟩
  · rintro ⟨perm,resources,kinds⟩
    exact ⟨perm,fun group plural => resources ⟨group,plural⟩,fun group kind => kinds ⟨group,kind⟩⟩

theorem iff_listed : Reordered reports others ↔ reports.Perm others ∧ ∀ r ∈ reports,
    reports.filter (fun q => q.groupResource = r.groupResource) =
      others.filter (fun q => q.groupResource = r.groupResource) ∧
    reports.filter (fun q => q.groupKind = r.groupKind) =
      others.filter (fun q => q.groupKind = r.groupKind) := by
  rw [iff_keys]
  constructor
  · rintro ⟨perm,resources,kinds⟩
    exact ⟨perm,fun r _ => ⟨resources r.groupResource,kinds r.groupKind⟩⟩
  · rintro ⟨perm,listed⟩
    exact ⟨perm,filter_of_listed perm fun r member => (listed r member).1,
      filter_of_listed perm fun r member => (listed r member).2⟩

instance (reports others : List ResourceReport) : Decidable (Reordered reports others) :=
  decidable_of_iff _ iff_listed.symm

theorem reportsOf_eq (same : Reordered reports others) (gr : GroupResource) :
    reportsOf reports gr = reportsOf others gr := by
  obtain ⟨_,resources,_⟩ := iff_keys.mp same
  rw [reportsOf_eq_filter,reportsOf_eq_filter,resources]

theorem ofFirstKind_eq (same : Reordered reports others) : ofFirstKind reports = ofFirstKind others := by
  funext r
  rw [ofFirstKind,ofFirstKind,same.reportsOf_eq]

theorem alike_build (same : Reordered reports others) (singularize : String → String)
    (generation later : Nat) :
    (Catalog.build singularize generation reports).1.Alike
      (Catalog.build singularize later others).1 := by
  obtain ⟨_,_,kinds⟩ := iff_keys.mp same
  refine ⟨fun gr => ?_,fun gk => ?_⟩
  · rw [Catalog.get?_build,Catalog.get?_build,same.reportsOf_eq]
  · rw [Catalog.owner?_build,Catalog.owner?_build,reportsOfKind,reportsOfKind,kinds,
      same.ofFirstKind_eq]

end Reordered

namespace Catalog

/-- The order in which unrelated resources are reported does not matter: two listings that differ in it
alone lead to catalogs that give the same answer to every question, faults included. -/
theorem build_reordered (singularize : String → String) (generation later : Nat)
    (reports others : List ResourceReport) (same : Reordered reports others) :
    let c := (build singularize generation reports).1
    let d := (build singularize later others).1
    (∀ gr, c.get? gr = d.get? gr ∧ c.singularOf gr = d.singularOf gr) ∧
    (∀ preferred ref, c.resolve preferred ref = d.resolve preferred ref ∧
      c.kindOf preferred ref = d.kindOf preferred ref) ∧
    ∀ gk, c.ofKind gk = d.ofKind gk := by
  intro c d
  have wf : c.WellFormed := wellFormed_build singularize generation reports
  have also : d.WellFormed := wellFormed_build singularize later others
  have alike : c.Alike d := same.alike_build singularize generation later
  have resolved (preferred : List String) (ref : ResourceReference) :
      c.resolve preferred ref = d.resolve preferred ref :=
    wf.resolve_of_perm also (alike.perm_candidates wf also ref) preferred
  refine ⟨fun gr => ⟨alike.mapping gr,?_⟩,fun preferred ref => ⟨resolved preferred ref,?_⟩,fun gk => ?_⟩
  · rw [singularOf,singularOf,alike.mapping]
  · rw [kindOf,kindOf,resolved]
  · rw [ofKind_eq,ofKind_eq,alike.owner,funext alike.mapping]

theorem build_reordered_pods :
    let pods : ResourceReport := ⟨"","v1","pods",true,"Pod",none⟩
    let measured : ResourceReport := ⟨"metrics.k8s.io","v1beta1","Pods",true,"PodMetrics",some "pod"⟩
    let current : ResourceReport := ⟨"apps","v1","deployments",true,"Deployment",none⟩
    let old : ResourceReport := ⟨"apps","v1beta1","deployments",true,"Deployment",none⟩
    let mirror : ResourceReport := ⟨"apps","v1","mirrors",true,"Deployment",some "deployment"⟩
    let reports := [pods,current,mirror,measured,old]
    let others := [current,measured,mirror,old,pods]
    let c := (build Inflection.builtin.singular 1 reports).1
    let d := (build Inflection.builtin.singular 2 others).1
    Reordered reports others ∧
    c.resolve ["apps"] ⟨"","","pod"⟩ = d.resolve ["apps"] ⟨"","","pod"⟩ ∧
    c.resolve ["apps"] ⟨"","","pod"⟩ =
      .error (.ambiguous ⟨"","pod"⟩ ["pods","pods.metrics.k8s.io"]) ∧
    c.ofKind ⟨"apps","Deployment"⟩ = d.ofKind ⟨"apps","Deployment"⟩ := by
  intro pods measured current old mirror reports others c d
  have same : Reordered reports others := by decide +kernel
  obtain ⟨_,references,kinds⟩ := build_reordered Inflection.builtin.singular 1 2 reports others same
  refine ⟨same,(references ["apps"] ⟨"","","pod"⟩).1,?_,kinds ⟨"apps","Deployment"⟩⟩
  decide +kernel

end Catalog

end ObjectMetrics
