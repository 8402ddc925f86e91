import ObjectMetrics.Catalog.Singular
import ObjectMetrics.Catalog.Basic
import ObjectMetrics.Proofs.Catalog.Resolution

/-! Normalizing an identity again. The core group is written as no group, which leaves the group
open, so the canonical name of a core resource may mean a resource of another group too. -/
namespace ObjectMetrics

namespace Mapping

def normalized (m : Mapping) (namespaced : Bool) (metric : String) : Normalized :=
  ⟨⟨m.groupResource,namespaced,metric⟩,m.singular,m.scope⟩

def reference (m : Mapping) : ResourceReference := m.groupResource.anyVersion

@[simp] theorem serves_any (m : Mapping) : m.serves "" := rfl

end Mapping

namespace Catalog

theorem singularOf_of_resolve {c : Catalog} {preferred : List String} {ref : ResourceReference}
    {m : Mapping} (resolved : c.resolve preferred ref = .ok m) :
    c.singularOf m.groupResource = .ok m.singular := by
  rw [singularOf,get?_of_resolve resolved]

theorem normalize_cases (c : Catalog) (preferred : List String) (request : MetricRequest) :
    (∃ n, c.normalize preferred request = .ok n) ∨
    (∃ names, c.normalize preferred request = .error (.ambiguous request.resource names)) ∨
    c.normalize preferred request = .error (.resourceNotFound request.resource) := by
  unfold normalize
  cases resolved : c.resolve preferred request.resource.anyVersion with
  | ok m =>
    exact .inl ⟨_,congrArg (Except.map _) (singularOf_of_resolve resolved)⟩
  | error fault =>
    have means := fault_of_resolve resolved
    split at means
    · exact .inr (.inr (congrArg Except.error means))
    · exact .inr (.inl ⟨_,congrArg Except.error means⟩)

end Catalog

namespace Catalog.WellFormed

variable {c : Catalog} {preferred : List String}

theorem mem_candidates_reference_iff (wf : c.WellFormed) {m other : Mapping}
    (member : m ∈ c.mappings) :
    other ∈ c.candidates m.reference ↔
      c.Names m.plural other ∧ (m.group = "" ∨ other.group = m.group) := by
  have folded : Text.lower m.reference.resource = m.plural := wf.table.folded m member
  have group : m.reference.group = m.group := rfl
  have version : m.reference.version = "" := rfl
  rw [wf.mem_candidates_iff,folded,group,version]
  simp

theorem normalize_eq_ok_iff (wf : c.WellFormed) {request : MetricRequest} {n : Normalized} :
    c.normalize preferred request = .ok n ↔
      ∃ m, c.resolve preferred request.resource.anyVersion = .ok m ∧
        m.normalized request.namespaced request.metric = n := by
  unfold Catalog.normalize
  cases resolved : c.resolve preferred request.resource.anyVersion with
  | error fault => simp
  | ok m =>
    have named := (wf.mem_candidates_iff.mp (wf.resolve_eq_ok_iff.mp resolved).1).1
    have found := wf.get?_eq_some_iff.mpr ⟨named.1,rfl⟩
    simp [singularOf,found,Except.map,Mapping.normalized]

/-- A mapping is what its own reference means if it has a group, or if no other group uses its name
or the core group comes before those that do. -/
theorem resolve_reference_iff (wf : c.WellFormed) {m : Mapping} (member : m ∈ c.mappings) :
    c.resolve preferred m.reference = .ok m ↔
      m.group ≠ "" ∨ (∀ other, c.Names m.plural other → other.group = "") ∨
        ∃ before after, preferred = before ++ "" :: after ∧
          ∀ group ∈ before, ∀ other, c.Names m.plural other → other.group ≠ group := by
  have named := names_plural member
  simp only [wf.resolve_eq_ok_iff,wf.mem_candidates_reference_iff member]
  by_cases core : m.group = ""
  · simp only [core,true_or,and_true,named,true_and,ne_eq,not_true_eq_false,false_or]
    have alone : (∀ other, c.Names m.plural other → other = m) ↔
        ∀ other, c.Names m.plural other → other.group = "" := by
      constructor
      · intro same other names
        rw [same other names,core]
      · intro same other names
        exact wf.names_unique names named ((same other names).trans core.symm)
    rw [alone]
  · simp only [core,false_or,or_true,and_true,named,true_and,ne_eq,not_false_eq_true,true_or,
      iff_true]
    left
    rintro other ⟨names,group⟩
    exact wf.names_unique names named group

theorem normalize_again_iff (wf : c.WellFormed) {request : MetricRequest} {n : Normalized}
    (normalized : c.normalize preferred request = .ok n) :
    c.normalize preferred n.identity.request = .ok n ↔
      n.identity.resource.group ≠ "" ∨
      (∀ other, c.Names n.identity.resource.resource other → other.group = "") ∨
      ∃ before after, preferred = before ++ "" :: after ∧ ∀ group ∈ before,
        ∀ other, c.Names n.identity.resource.resource other → other.group ≠ group := by
  obtain ⟨m,resolved,rfl⟩ := wf.normalize_eq_ok_iff.mp normalized
  have member := (wf.mem_candidates_iff.mp (wf.resolve_eq_ok_iff.mp resolved).1).1.1
  have again : c.normalize preferred (m.normalized request.namespaced request.metric).identity.request =
      .ok (m.normalized request.namespaced request.metric) ↔
        c.resolve preferred m.reference = .ok m := by
    rw [wf.normalize_eq_ok_iff]
    constructor
    · rintro ⟨other,means,same⟩
      have named := (wf.mem_candidates_iff.mp (wf.resolve_eq_ok_iff.mp means).1).1
      have key : other.groupResource = m.groupResource :=
        congrArg (fun n : Normalized => n.identity.resource) same
      obtain rfl := wf.table.eq_of_groupResource named.1 member key
      exact means
    · intro means
      exact ⟨m,means,rfl⟩
  rw [again]
  exact wf.resolve_reference_iff member

end Catalog.WellFormed

namespace Catalog

/-- Normalizing an identity gives it back exactly if its group is not the core group, or no other
group has a resource of its name, or the core group is preferred to those groups. -/
theorem build_normalize_identity_iff (singularize : String → String) (generation : Nat)
    (reports : List ResourceReport) (preferred : List String) (request : MetricRequest)
    (n : Normalized)
    (normalized : (build singularize generation reports).1.normalize preferred request = .ok n) :
    (build singularize generation reports).1.normalize preferred n.identity.request = .ok n ↔
      n.identity.resource.group ≠ "" ∨
      (∀ other, (build singularize generation reports).1.Names n.identity.resource.resource other →
        other.group = "") ∨
      ∃ before after, preferred = before ++ "" :: after ∧ ∀ group ∈ before, ∀ other,
        (build singularize generation reports).1.Names n.identity.resource.resource other →
          other.group ≠ group :=
  (wellFormed_build singularize generation reports).normalize_again_iff normalized

def sharedPods : Catalog :=
  (build Inflection.builtin.singular 1 [⟨"","v1","pods",true,"Pod",none⟩,
    ⟨"metrics.k8s.io","v1beta1","pods",true,"PodMetrics",none⟩]).1

/-- The core group's singular name means one resource, and its plural name two, so the identity of
a request is not a request for itself. With the other group preferred it is one for another. -/
theorem normalize_identity_of_shared_plural :
    sharedPods.normalize [] ⟨⟨"","pod"⟩,true,"cpu"⟩ =
      .ok ⟨⟨⟨"","pods"⟩,true,"cpu"⟩,"pod",.namespaced⟩ ∧
    sharedPods.normalize [] (MetricIdentity.request ⟨⟨"","pods"⟩,true,"cpu"⟩) =
      .error (.ambiguous ⟨"","pods"⟩ ["pods","pods.metrics.k8s.io"]) ∧
    sharedPods.normalize ["metrics.k8s.io"] ⟨⟨"","pod"⟩,true,"cpu"⟩ =
      .ok ⟨⟨⟨"","pods"⟩,true,"cpu"⟩,"pod",.namespaced⟩ ∧
    sharedPods.normalize ["metrics.k8s.io"] (MetricIdentity.request ⟨⟨"","pods"⟩,true,"cpu"⟩) =
      .ok ⟨⟨⟨"metrics.k8s.io","pods"⟩,true,"cpu"⟩,"podmetrics",.namespaced⟩ := by
  decide +kernel

theorem build_normalize_identity_preferred :
    sharedPods.normalize [""] ⟨⟨"","pod"⟩,true,"cpu"⟩ =
      .ok ⟨⟨⟨"","pods"⟩,true,"cpu"⟩,"pod",.namespaced⟩ ∧
    sharedPods.normalize [""] (MetricIdentity.request ⟨⟨"","pods"⟩,true,"cpu"⟩) =
      .ok ⟨⟨⟨"","pods"⟩,true,"cpu"⟩,"pod",.namespaced⟩ := by
  have normalized : sharedPods.normalize [""] ⟨⟨"","pod"⟩,true,"cpu"⟩ =
      .ok ⟨⟨⟨"","pods"⟩,true,"cpu"⟩,"pod",.namespaced⟩ := by decide +kernel
  refine ⟨normalized,(build_normalize_identity_iff _ _ _ _ _ _ normalized).mpr ?_⟩
  exact .inr (.inr ⟨[],[],rfl,by simp⟩)

end Catalog

end ObjectMetrics
