import Mathlib.Data.Set.Card
import ObjectMetrics.Proofs.Catalog.Growth

/-! What becomes of the reports of a listing. Of the reports of one resource the first says what it is,
those that agree with it add their versions, and each of the others is named in a warning. -/
namespace ObjectMetrics

/-- Whether two reports are of one kind and scope. -/
def ResourceReport.agreesWith (r first : ResourceReport) : Bool :=
  r.kind = first.kind && r.namespaced = first.namespaced

theorem ResourceReport.scope_inj {r first : ResourceReport} :
    r.scope = first.scope ↔ r.namespaced = first.namespaced := by
  rw [scope,scope]
  cases r.namespaced <;> cases first.namespaced <;> decide

private theorem eraseDups_append_singleton (xs : List String) (x : String) :
    (xs ++ [x]).eraseDups = if x ∈ xs then xs.eraseDups else xs.eraseDups ++ [x] := by
  rw [List.eraseDups_append]
  by_cases known : x ∈ xs <;> simp [List.removeAll,List.eraseDups_cons,known]

namespace Mapping

/-- The mapping that the reports of one resource lead to, of which the first is given apart. -/
structure Summarizes (singularize : String → String) (m : Mapping) (first : ResourceReport)
    (later : List ResourceReport) : Prop where
  group : m.group = first.group
  plural : m.plural = Text.lower first.resource
  singular : m.singular =
    if first.singular.getD "" ≠ "" then Text.lower (first.singular.getD "")
    else if first.kind ≠ "" then Text.lower first.kind
    else singularize (Text.lower first.resource)
  kind : m.kind = first.kind
  scope : m.scope = if first.namespaced then .namespaced else .cluster
  version : m.version = first.version
  versions : m.versions = (((first :: later).filter fun r => r.agreesWith first).map
    ResourceReport.version).eraseDups

theorem groupKind_eq_iff {m : Mapping} {gk : GroupKind} :
    m.groupKind = gk ↔ m.group = gk.group ∧ m.kind = gk.kind :=
  GroupKind.mk.injEq .. ▸ Iff.rfl

theorem versions_addVersion (m : Mapping) (version : String) : (m.addVersion version).versions =
    if version ∈ m.versions then m.versions else m.versions ++ [version] := by
  unfold addVersion
  by_cases known : version ∈ m.versions
  · rw [if_pos (List.contains_iff_mem.mpr known),if_pos known]
  · rw [if_neg (mt List.contains_iff_mem.mp known),if_neg known]
    rfl

variable {singularize : String → String} {m : Mapping} {first : ResourceReport}
  {later : List ResourceReport}

namespace Summarizes

theorem groupResource (summary : m.Summarizes singularize first later) :
    m.groupResource = first.groupResource := by
  rw [Mapping.groupResource,summary.group,summary.plural]
  rfl

theorem groupKind (summary : m.Summarizes singularize first later) :
    m.groupKind = first.groupKind := by
  rw [Mapping.groupKind,summary.group,summary.kind]
  rfl

theorem agreesWith (summary : m.Summarizes singularize first later) (r : ResourceReport) :
    m.agreesWith r = r.agreesWith first := by
  have scope : m.scope = r.scope ↔ r.namespaced = first.namespaced := by
    rw [summary.scope,← ResourceReport.scope_inj,eq_comm]
    rfl
  simp only [Mapping.agreesWith,ResourceReport.agreesWith,summary.kind,scope,
    eq_comm (a := first.kind)]

theorem versions_extend (summary : m.Summarizes singularize first later) (r : ResourceReport) :
    (Mapping.extend singularize (some m) r).versions =
      (((first :: (later ++ [r])).filter fun r => r.agreesWith first).map
        ResourceReport.version).eraseDups := by
  rw [← List.cons_append,List.filter_append,List.map_append]
  cases agrees : r.agreesWith first with
  | false =>
    have same : Mapping.extend singularize (some m) r = m := by
      simp [Mapping.extend,summary.agreesWith,agrees]
    simp [same,agrees,summary.versions]
  | true =>
    have added : Mapping.extend singularize (some m) r = m.addVersion r.version := by
      simp [Mapping.extend,summary.agreesWith,agrees]
    rw [added,versions_addVersion,summary.versions]
    simp only [agrees,List.filter_cons_of_pos,List.filter_nil,List.map_cons,List.map_nil,
      eraseDups_append_singleton,List.mem_eraseDups]

theorem extend (summary : m.Summarizes singularize first later) (r : ResourceReport) :
    (Mapping.extend singularize (some m) r).Summarizes singularize first (later ++ [r]) := by
  have versions := summary.versions_extend r
  obtain ⟨more,grown⟩ := Grows.extend singularize m r
  rw [grown] at versions ⊢
  exact ⟨summary.group,summary.plural,summary.singular,summary.kind,summary.scope,summary.version,
    versions⟩

end Summarizes

theorem ofReports?_summarizes (singularize : String → String) (first : ResourceReport)
    (later : List ResourceReport) : ∃ m, ofReports? singularize (first :: later) = some m ∧
      m.Summarizes singularize first later := by
  induction later using List.reverseRecOn with
  | nil =>
    refine ⟨.ofReport singularize first,rfl,rfl,rfl,rfl,rfl,rfl,rfl,?_⟩
    simp [ResourceReport.agreesWith,versions,ofReport,List.eraseDups_cons]
  | append_singleton later r ih =>
    obtain ⟨m,found,summary⟩ := ih
    rw [← List.cons_append,ofReports?_append_singleton,found]
    exact ⟨_,rfl,summary.extend r⟩

end Mapping

/-- Whether a warning is about a report that contradicts an earlier one of the resource. -/
def CatalogWarning.isConflictOf (gr : GroupResource) : CatalogWarning → Bool
  | conflictingReport resource .. => resource = gr
  | _ => false

def conflictsOf (gr : GroupResource) (warnings : List CatalogWarning) : List CatalogWarning :=
  warnings.filter (CatalogWarning.isConflictOf gr)

theorem conflictsOf_append (gr : GroupResource) (warnings more : List CatalogWarning) :
    conflictsOf gr (warnings ++ more) = conflictsOf gr warnings ++ conflictsOf gr more :=
  List.filter_append warnings more

def contradictions (gr : GroupResource) : List ResourceReport → List CatalogWarning
  | [] => []
  | first :: later => (later.filter fun r => !r.agreesWith first).map fun r =>
    .conflictingReport gr r.version r.kind first.kind

namespace CatalogDraft

variable {singularize : String → String}

def contradiction (m? : Option Mapping) (r : ResourceReport) : List CatalogWarning :=
  match m? with
  | none => []
  | some m =>
    if m.agreesWith r then [] else [.conflictingReport r.groupResource r.version r.kind m.kind]

theorem conflictsOf_claimKind (d : CatalogDraft) (gk : GroupKind) (gr other : GroupResource) :
    conflictsOf other (d.claimKind gk gr).warnings = conflictsOf other d.warnings := by
  unfold claimKind
  split
  · rw [warn,conflictsOf_append]
    exact List.append_nil _
  · rfl

theorem conflictsOf_addVersion (d : CatalogDraft) (m : Mapping) (r : ResourceReport)
    (gr : GroupResource) : conflictsOf gr (d.addVersion m r).warnings =
      conflictsOf gr d.warnings ++
        if r.groupResource = gr then contradiction (some m) r else [] := by
  unfold addVersion
  dsimp only [contradiction]
  by_cases agrees : m.agreesWith r
  · simp [agrees]
  · rw [if_neg agrees,if_neg agrees,warn,conflictsOf_append]
    by_cases same : r.groupResource = gr <;> simp [conflictsOf,CatalogWarning.isConflictOf,same]

theorem conflictsOf_add (d : CatalogDraft) (r : ResourceReport) (gr : GroupResource) :
    conflictsOf gr (d.add singularize r).warnings = conflictsOf gr d.warnings ++
      if r.isResource ∧ r.groupResource = gr then contradiction (d.get? r.groupResource) r
      else [] := by
  cases resource : r.isResource with
  | false => simp [add,resource]
  | true =>
    simp only [add,resource,if_true,true_and]
    cases d.get? r.groupResource with
    | none =>
      rw [contradiction,ite_self,List.append_nil]
      exact d.conflictsOf_claimKind r.groupKind r.groupResource gr
    | some m => exact d.conflictsOf_addVersion m r gr

theorem contradictions_append_singleton (singularize : String → String) (reports : List ResourceReport)
    (r : ResourceReport) : contradictions r.groupResource (reports ++ [r]) =
      contradictions r.groupResource reports ++
        contradiction (Mapping.ofReports? singularize reports) r := by
  cases reports with
  | nil => rfl
  | cons first later =>
    obtain ⟨m,found,summary⟩ := Mapping.ofReports?_summarizes singularize first later
    simp only [List.cons_append,contradictions,contradiction,found,summary.agreesWith,summary.kind,
      List.filter_append,List.map_append]
    cases agrees : r.agreesWith first <;> simp [agrees]

theorem conflictsOf_foldl (singularize : String → String) (reports : List ResourceReport)
    (gr : GroupResource) :
    conflictsOf gr (reports.foldl (add singularize) empty).warnings =
      contradictions gr (reportsOf reports gr) := by
  induction reports using List.reverseRecOn with
  | nil => rfl
  | append_singleton reports r ih =>
    rw [List.foldl_append,List.foldl_cons,List.foldl_nil,conflictsOf_add,ih,get?_foldl,
      reportsOf_append,reportsOf_singleton]
    split
    · rename_i hit
      obtain ⟨_,rfl⟩ := hit
      exact (contradictions_append_singleton singularize _ r).symm
    · rw [List.append_nil,List.append_nil]

end CatalogDraft

namespace Catalog

variable (singularize : String → String) (generation : Nat) (reports : List ResourceReport)

theorem conflictsOf_build (gr : GroupResource) :
    conflictsOf gr (build singularize generation reports).2 =
      contradictions gr (reportsOf reports gr) := by
  have unrelated (ms : List Mapping) : conflictsOf gr (withheldAliases ms) = [] := by
    rw [conflictsOf,List.filter_eq_nil_iff]
    intro warning member
    obtain ⟨m,_,withheld⟩ := List.mem_filterMap.mp member
    obtain ⟨_,given⟩ := Option.ite_none_right_eq_some.mp withheld
    obtain rfl := Option.some.inj given
    exact Bool.false_ne_true
  rw [build,conflictsOf_append,unrelated,List.append_nil]
  exact CatalogDraft.conflictsOf_foldl singularize reports gr

theorem get?_build_ne_none_iff {gr : GroupResource} :
    (build singularize generation reports).1.get? gr ≠ none ↔ reportsOf reports gr ≠ [] := by
  rw [get?_build,ne_eq,Mapping.ofReports?_eq_none_iff]

/-- A catalog has as many mappings as there are resources with a report. -/
theorem size_build : (build singularize generation reports).1.size =
    Set.ncard {gr | reportsOf reports gr ≠ []} := by
  let c := (build singularize generation reports).1
  have wf : c.WellFormed := wellFormed_build singularize generation reports
  have keys : {gr | reportsOf reports gr ≠ []} =
      ((c.mappings.map Mapping.groupResource).toFinset : Set GroupResource) := by
    ext gr
    rw [List.coe_toFinset]
    exact (get?_build_ne_none_iff singularize generation reports).symm.trans
      CatalogDraft.mem_keys_iff.symm
  rw [keys,Set.ncard_coe_finset,List.toFinset_card_of_nodup wf.table.distinct,List.length_map]
  rfl

end Catalog

def firstReportOf (reports : List ResourceReport) (gr : GroupResource) : Nat :=
  reports.findIdx fun r => r.isOf gr

theorem head?_reportsOf (reports : List ResourceReport) (gr : GroupResource) :
    (reportsOf reports gr).head? = reports[firstReportOf reports gr]? := by
  rw [reportsOf,List.head?_filter,List.find?_eq_getElem?_findIdx]
  rfl

private theorem findIdx_le_of_getElem? {α : Type} {xs : List α} {i : Nat} {x : α} {p : α → Bool}
    (there : xs[i]? = some x) (holds : p x) : xs.findIdx p ≤ i := by
  obtain ⟨inside,rfl⟩ := List.getElem?_eq_some_iff.mp there
  by_contra later
  have misses : p xs[i] = false := List.not_of_lt_findIdx (Nat.lt_of_not_le later)
  rw [holds] at misses
  contradiction

namespace Catalog

variable {singularize : String → String} {generation : Nat} {reports : List ResourceReport}

theorem firstReport_of_mem {m : Mapping} (member : m ∈ (build singularize generation reports).1.mappings) :
    ∃ first later, reportsOf reports m.groupResource = first :: later ∧
      reports[firstReportOf reports m.groupResource]? = some first ∧
      m.Summarizes singularize first later := by
  have wf := wellFormed_build singularize generation reports
  have found := wf.get?_eq_some_iff.mpr ⟨member,rfl⟩
  rw [get?_build] at found
  cases listed : reportsOf reports m.groupResource with
  | nil => rw [listed] at found; contradiction
  | cons first later =>
    obtain ⟨other,leads,summary⟩ := Mapping.ofReports?_summarizes singularize first later
    rw [listed,leads] at found
    obtain rfl := Option.some.inj found
    exact ⟨first,later,rfl,by rw [← head?_reportsOf,listed]; rfl,summary⟩

theorem ofFirstKind_of_first {gr : GroupResource} {first : ResourceReport} {later : List ResourceReport}
    (listed : reportsOf reports gr = first :: later) : ofFirstKind reports first := by
  have member : first ∈ reportsOf reports gr := listed ▸ List.mem_cons_self
  obtain ⟨_,rfl,resource⟩ := mem_reportsOf_iff.mp member
  simp [ofFirstKind,resource,listed]

/-- The resource to which a kind belongs was reported before all others of the kind. -/
theorem firstReportOf_owner_le {gk : GroupKind} {owner : GroupResource}
    (owned : kindOwner? (build singularize generation reports).1.kinds gk = some owner) {m : Mapping}
    (member : m ∈ (build singularize generation reports).1.mappings) (kind : m.groupKind = gk) :
    firstReportOf reports owner ≤ firstReportOf reports m.groupResource := by
  obtain ⟨first,later,listed,there,summary⟩ := firstReport_of_mem member
  rw [owner?_build,reportsOfKind,List.find?_filter] at owned
  obtain ⟨r,found,rfl⟩ := Option.map_eq_some_iff.mp owned
  have gives := List.find?_some found
  rw [List.find?_eq_getElem?_findIdx] at found
  refine Nat.le_trans (findIdx_le_of_getElem? found ?_) (findIdx_le_of_getElem? there ?_)
  · have resource : r.isResource := by simp_all [ofFirstKind]
    exact ResourceReport.isOf_iff.mpr ⟨rfl,resource⟩
  · have same : first.groupKind = gk := summary.groupKind.symm.trans kind
    simp [same,ofFirstKind_of_first listed]

theorem eq_of_firstReportOf {m other : Mapping}
    (member : m ∈ (build singularize generation reports).1.mappings)
    (there : other ∈ (build singularize generation reports).1.mappings)
    (same : firstReportOf reports m.groupResource = firstReportOf reports other.groupResource) :
    m = other := by
  have wf := wellFormed_build singularize generation reports
  obtain ⟨first,_,_,listed,summary⟩ := firstReport_of_mem member
  obtain ⟨second,_,_,also,others⟩ := firstReport_of_mem there
  obtain rfl : first = second := Option.some.inj (listed.symm.trans (same ▸ also))
  exact wf.table.eq_of_groupResource member there
    (summary.groupResource.trans others.groupResource.symm)

/-- A kind is found through the mapping of its owner, and has an owner if any mapping is of it. -/
theorem ofKind_build_cases (singularize : String → String) (generation : Nat)
    (reports : List ResourceReport) (gk : GroupKind) :
    let c := (build singularize generation reports).1
    (∃ m ∈ c.mappings, m.groupKind = gk ∧ kindOwner? c.kinds gk = some m.groupResource ∧
      c.ofKind gk = .ok m) ∨
    ((∀ m ∈ c.mappings, m.groupKind ≠ gk) ∧ c.ofKind gk = .error (.kindNotFound gk)) := by
  intro c
  have wf : c.WellFormed := wellFormed_build singularize generation reports
  have settled := kindsSettled_build singularize reports
  cases owned : kindOwner? c.kinds gk with
  | some owner =>
    obtain ⟨m,found,kind⟩ := settled.mapped gk owner owned
    obtain ⟨member,rfl⟩ := wf.get?_eq_some_iff.mp found
    exact .inl ⟨m,member,kind,rfl,ofKind_of_owner owned found⟩
  | none =>
    refine .inr ⟨?_,?_⟩
    · rintro m member rfl
      obtain ⟨owner,there⟩ := settled.owned _ m (wf.get?_eq_some_iff.mpr ⟨member,rfl⟩)
      exact Option.some_ne_none owner (there.symm.trans owned)
    · rw [ofKind_eq,owned]
      rfl

/-- A kind stands for the mapping of this kind that was reported first. -/
theorem ofKind_build_eq_ok_iff {gk : GroupKind} {m : Mapping} :
    (build singularize generation reports).1.ofKind gk = .ok m ↔
      m ∈ (build singularize generation reports).1.mappings ∧ m.groupKind = gk ∧
      ∀ other ∈ (build singularize generation reports).1.mappings, other.groupKind = gk →
        firstReportOf reports m.groupResource ≤ firstReportOf reports other.groupResource := by
  obtain ⟨owner,there,kind,owned,found⟩ | ⟨absent,missing⟩ :=
    ofKind_build_cases singularize generation reports gk
  · rw [found,Except.ok.injEq]
    constructor
    · rintro rfl
      exact ⟨there,kind,fun other => firstReportOf_owner_le owned⟩
    · rintro ⟨member,same,least⟩
      have before := firstReportOf_owner_le owned member same
      exact eq_of_firstReportOf there member (Nat.le_antisymm before (least owner there kind))
  · refine iff_of_false (by simp [missing]) ?_
    rintro ⟨member,kind,_⟩
    exact absent m member kind

theorem ofKind_build_eq_error_iff {gk : GroupKind} {fault : Fault} :
    (build singularize generation reports).1.ofKind gk = .error fault ↔
      fault = .kindNotFound gk ∧
      ∀ m ∈ (build singularize generation reports).1.mappings, m.groupKind ≠ gk := by
  obtain ⟨owner,there,kind,_,found⟩ | ⟨absent,missing⟩ :=
    ofKind_build_cases singularize generation reports gk
  · refine iff_of_false (by simp [found]) ?_
    rintro ⟨_,absent⟩
    exact absent owner there kind
  · rw [missing,Except.error.injEq,eq_comm,and_iff_left absent]

/-- The first report of a resource says what it is, the reports that agree with it add their versions,
and each of the others is named in a warning. No resource is left out, and a kind stands for the
resource that was reported first among those of the kind. -/
theorem build_of_reports (singularize : String → String) (generation : Nat)
    (reports : List ResourceReport) :
    let c := (build singularize generation reports).1
    let warnings := (build singularize generation reports).2
    (∀ gr, c.get? gr ≠ none ↔ reportsOf reports gr ≠ []) ∧
    (∀ gr first later, reportsOf reports gr = first :: later →
      (∃ m, c.get? gr = some m ∧ m.Summarizes singularize first later) ∧
      conflictsOf gr warnings = (later.filter fun r => !r.agreesWith first).map fun r =>
        .conflictingReport gr r.version r.kind first.kind) ∧
    (∀ gr, reportsOf reports gr = [] → conflictsOf gr warnings = []) ∧
    c.size = Set.ncard {gr | reportsOf reports gr ≠ []} ∧
    (∀ gk m, c.ofKind gk = .ok m ↔ m ∈ c.mappings ∧ (m.group = gk.group ∧ m.kind = gk.kind) ∧
      ∀ other ∈ c.mappings, other.group = gk.group ∧ other.kind = gk.kind →
        firstReportOf reports ⟨m.group,m.plural⟩ ≤ firstReportOf reports ⟨other.group,other.plural⟩) ∧
    ∀ gk fault, c.ofKind gk = .error fault ↔
      fault = .kindNotFound gk ∧ ∀ m ∈ c.mappings, ¬ (m.group = gk.group ∧ m.kind = gk.kind) := by
  intro c warnings
  have conflicts := conflictsOf_build singularize generation reports
  refine ⟨fun gr => get?_build_ne_none_iff singularize generation reports,?_,?_,
    size_build singularize generation reports,fun gk m => ?_,fun gk fault => ?_⟩
  · intro gr first later listed
    obtain ⟨m,leads,summary⟩ := Mapping.ofReports?_summarizes singularize first later
    refine ⟨⟨m,?_,summary⟩,?_⟩
    · rw [get?_build,listed,leads]
    · rw [conflicts,listed]
      rfl
  · intro gr unlisted
    rw [conflicts,unlisted]
    rfl
  · simp only [← Mapping.groupKind_eq_iff]
    exact ofKind_build_eq_ok_iff
  · simp only [← Mapping.groupKind_eq_iff]
    exact ofKind_build_eq_error_iff

theorem build_of_reports_deployments :
    let first : ResourceReport := ⟨"apps","v1","Deployments",true,"Deployment",some ""⟩
    let later : List ResourceReport := [⟨"apps","v2","DEPLOYMENTS",false,"Deployment",none⟩,
      ⟨"apps","v1beta1","deployments",true,"Deployment",some "dp"⟩,
      ⟨"apps","v1","deployments",true,"Deployment",none⟩]
    let jobs : ResourceReport := ⟨"apps","v1","Jobs",true,"",none⟩
    let reports := ⟨"apps","v1","deployments/scale",true,"Deployment",none⟩ :: first :: jobs :: later
    let c := (build Inflection.builtin.singular 1 reports).1
    let warnings := (build Inflection.builtin.singular 1 reports).2
    let m : Mapping :=
      ⟨"apps","deployments","deployment","Deployment",.namespaced,"v1",["v1beta1"]⟩
    reportsOf reports ⟨"apps","deployments"⟩ = first :: later ∧
    c.get? ⟨"apps","deployments"⟩ = some m ∧
    conflictsOf ⟨"apps","deployments"⟩ warnings =
      [.conflictingReport ⟨"apps","deployments"⟩ "v2" "Deployment" "Deployment"] ∧
    c.get? ⟨"apps","deployments/scale"⟩ = none ∧
    (∃ other, c.get? ⟨"apps","jobs"⟩ = some other ∧ other.singular = "job") ∧
    c.ofKind ⟨"apps","Deployment"⟩ = .ok m := by
  intro first later jobs reports c warnings m
  obtain ⟨mapped,kept,_,_,kinds,_⟩ := build_of_reports Inflection.builtin.singular 1 reports
  have listed : reportsOf reports ⟨"apps","deployments"⟩ = first :: later := by decide +kernel
  have single : reportsOf reports ⟨"apps","jobs"⟩ = [jobs] := by decide +kernel
  have unnamed : reportsOf reports ⟨"apps","deployments/scale"⟩ = [] := by decide +kernel
  have known : c.get? ⟨"apps","deployments"⟩ = some m := by decide +kernel
  obtain ⟨_,conflicts⟩ := kept _ _ _ listed
  obtain ⟨⟨other,there,summary⟩,_⟩ := kept _ _ _ single
  have singular : other.singular = "job" := summary.singular.trans (by decide +kernel)
  refine ⟨listed,known,conflicts.trans (by decide +kernel),?_,⟨other,there,singular⟩,?_⟩
  · exact not_not.mp (mt (mapped _).mp (not_not.mpr unnamed))
  · exact (kinds _ m).mpr ⟨by decide +kernel,by decide +kernel,by decide +kernel⟩

end Catalog

end ObjectMetrics
