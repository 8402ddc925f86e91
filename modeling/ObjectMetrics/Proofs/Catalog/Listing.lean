import Mathlib.Data.List.Find
import Mathlib.Data.List.Induction
import ObjectMetrics.Proofs.Catalog.Names

/-! What a catalog keeps of a listing. The mapping of a resource comes from the reports of that resource
alone, in their order. A kind belongs to the resource of its first report among the resources that
were first reported under that kind. -/
namespace ObjectMetrics

/-- Whether a report is of a resource. None is of what cannot be the name of a resource: an empty text,
or one with a slash. -/
def ResourceReport.isOf (r : ResourceReport) (gr : GroupResource) : Bool :=
  r.group = gr.group ∧ Text.lower r.resource = gr.resource ∧ gr.resource ≠ "" ∧
    '/' ∉ gr.resource.toList

def reportsOf (reports : List ResourceReport) (gr : GroupResource) : List ResourceReport :=
  reports.filter fun r => r.isOf gr

def reportsOfKind (reports : List ResourceReport) (gk : GroupKind) : List ResourceReport :=
  reports.filter fun r => r.groupKind = gk

/-- Whether a report is of the kind that its resource was first reported under. -/
def ofFirstKind (reports : List ResourceReport) (r : ResourceReport) : Bool :=
  r.isResource && (reportsOf reports r.groupResource).head?.any fun first => first.kind = r.kind

theorem ResourceReport.groupResource_eq_iff {r : ResourceReport} {gr : GroupResource} :
    r.groupResource = gr ↔ r.group = gr.group ∧ Text.lower r.resource = gr.resource :=
  GroupResource.mk.injEq .. ▸ Iff.rfl

theorem ResourceReport.groupKind_eq_iff {r : ResourceReport} {gk : GroupKind} :
    r.groupKind = gk ↔ r.group = gk.group ∧ r.kind = gk.kind :=
  GroupKind.mk.injEq .. ▸ Iff.rfl

theorem ResourceReport.isOf_iff {r : ResourceReport} {gr : GroupResource} :
    r.isOf gr ↔ r.groupResource = gr ∧ r.isResource := by
  have named : r.isResource ↔ Text.lower r.resource ≠ "" ∧ '/' ∉ (Text.lower r.resource).toList := by
    rw [isResource,plural,Bool.and_eq_true,decide_eq_true_iff,Bool.not_eq_true',List.contains_eq_mem,
      decide_eq_false_iff_not]
  rw [named,isOf,decide_eq_true_eq,groupResource_eq_iff,and_assoc]
  exact and_congr_right fun _ => and_congr_right fun same => same ▸ Iff.rfl

theorem reportsOf_eq_filter (reports : List ResourceReport) (gr : GroupResource) : reportsOf reports gr =
    (reports.filter fun r => r.groupResource = gr).filter ResourceReport.isResource := by
  rw [reportsOf,List.filter_filter]
  refine List.filter_congr fun r _ => Bool.eq_iff_iff.mpr ?_
  rw [ResourceReport.isOf_iff,Bool.and_eq_true,decide_eq_true_eq,and_comm]

theorem mem_reportsOf_iff {reports : List ResourceReport} {gr : GroupResource} {r : ResourceReport} :
    r ∈ reportsOf reports gr ↔ r ∈ reports ∧ r.groupResource = gr ∧ r.isResource := by
  rw [reportsOf,List.mem_filter,ResourceReport.isOf_iff]

theorem reportsOf_append (reports more : List ResourceReport) (gr : GroupResource) :
    reportsOf (reports ++ more) gr = reportsOf reports gr ++ reportsOf more gr := by
  simp [reportsOf]

theorem reportsOf_singleton (r : ResourceReport) (gr : GroupResource) :
    reportsOf [r] gr = if r.isResource ∧ r.groupResource = gr then [r] else [] := by
  by_cases same : r.groupResource = gr <;> by_cases resource : r.isResource <;>
    simp [reportsOf_eq_filter,same,resource]

theorem ofFirstKind_append {reports : List ResourceReport} {r : ResourceReport} (member : r ∈ reports)
    (more : List ResourceReport) : ofFirstKind (reports ++ more) r = ofFirstKind reports r := by
  cases resource : r.isResource with
  | false => simp [ofFirstKind,resource]
  | true =>
    have listed : reportsOf reports r.groupResource ≠ [] :=
      List.ne_nil_of_mem (mem_reportsOf_iff.mpr ⟨member,rfl,resource⟩)
    rw [ofFirstKind,ofFirstKind,reportsOf_append,List.head?_append_of_ne_nil _ listed]

theorem ofFirstKind_append_singleton_iff {reports : List ResourceReport} {r : ResourceReport}
    (unowned : (reportsOfKind reports r.groupKind).find? (ofFirstKind reports) = none) :
    ofFirstKind (reports ++ [r]) r ↔ r.isResource ∧ reportsOf reports r.groupResource = [] := by
  cases resource : r.isResource with
  | false => simp [ofFirstKind,resource]
  | true =>
    rw [ofFirstKind,resource,reportsOf_append,reportsOf_singleton,if_pos ⟨resource,rfl⟩]
    cases earlier : reportsOf reports r.groupResource with
    | nil => simp
    | cons first rest =>
      -- The first report of the resource is of another kind, or it would own this one.
      have listed : first ∈ reportsOf reports r.groupResource := by simp [earlier]
      obtain ⟨member,key,there⟩ := mem_reportsOf_iff.mp listed
      have other : first.kind ≠ r.kind := by
        intro kind
        have group : first.group = r.group := congrArg GroupResource.group key
        have same : first ∈ reportsOfKind reports r.groupKind := by
          simp [reportsOfKind,ResourceReport.groupKind,member,group,kind]
        have owns : ofFirstKind reports first := by simp [ofFirstKind,there,key,earlier]
        exact List.find?_eq_none.mp unowned first same owns
      simp [other]

namespace Mapping

/-- What one more report makes of the mapping of its resource. -/
def extend (singularize : String → String) (m? : Option Mapping) (r : ResourceReport) : Mapping :=
  match m? with
  | none => .ofReport singularize r
  | some m => if m.agreesWith r then m.addVersion r.version else m

def ofReports? (singularize : String → String) (reports : List ResourceReport) : Option Mapping :=
  reports.foldl (fun m? r => some (extend singularize m? r)) none

theorem ofReports?_append_singleton (singularize : String → String) (reports : List ResourceReport)
    (r : ResourceReport) : ofReports? singularize (reports ++ [r]) =
      some (extend singularize (ofReports? singularize reports) r) := by
  simp [ofReports?]

theorem ofReports?_eq_none_iff {singularize : String → String} {reports : List ResourceReport} :
    ofReports? singularize reports = none ↔ reports = [] := by
  induction reports using List.reverseRecOn with
  | nil => exact iff_of_true rfl rfl
  | append_singleton reports r => simp [ofReports?_append_singleton]

end Mapping

/-- The resource to which a kind belongs. -/
def kindOwner? (kinds : List (GroupKind × GroupResource)) (gk : GroupKind) : Option GroupResource :=
  (kinds.find? fun entry => entry.1 = gk).map Prod.snd

theorem Catalog.ofKind_eq (c : Catalog) (gk : GroupKind) :
    c.ofKind gk = match (kindOwner? c.kinds gk).bind c.get? with
      | some m => .ok m
      | none => .error (.kindNotFound gk) := by
  rw [ofKind,kindOwner?,Option.bind_map]
  rfl

namespace CatalogDraft

variable (singularize : String → String) (d : CatalogDraft) (r : ResourceReport)

theorem groupResource_of_get? {d : CatalogDraft} {gr : GroupResource} {m : Mapping}
    (found : d.get? gr = some m) : m.groupResource = gr := by
  simpa using List.find?_some found

theorem get?_map {f : Mapping → Mapping} (kept : ∀ m, (f m).groupResource = m.groupResource)
    (gr : GroupResource) :
    get? { d with mappings := d.mappings.map f } gr = (d.get? gr).map f := by
  simp only [get?,List.find?_map,Function.comp_def,kept]

theorem get?_addMapping (gr : GroupResource) : (d.addMapping singularize r).get? gr =
    (d.get? gr).or (if r.groupResource = gr then some (.ofReport singularize r) else none) := by
  have key : (Mapping.ofReport singularize r).groupResource = r.groupResource := rfl
  simp only [addMapping,get?,mappings_claimKind,List.find?_append]
  by_cases same : r.groupResource = gr <;> simp [key,same]

theorem get?_addVersion {m : Mapping} (found : d.get? r.groupResource = some m) (gr : GroupResource) :
    (d.addVersion m r).get? gr =
      if r.groupResource = gr then some (Mapping.extend singularize (some m) r) else d.get? gr := by
  have key := groupResource_of_get? found
  by_cases agrees : m.agreesWith r
  · -- Versions are added by key, and that key is of no other mapping.
    have kept (other : Mapping) : (if other.groupResource = m.groupResource then
        other.addVersion r.version else other).groupResource = other.groupResource := by
      split
      · exact other.groupResource_addVersion r.version
      · rfl
    rw [addVersion,if_pos agrees,d.get?_map kept]
    by_cases same : r.groupResource = gr
    · rw [← same,found]
      simp [Mapping.extend,agrees]
    · cases there : d.get? gr with
      | none => simp [same]
      | some other =>
        have apart : other.groupResource ≠ m.groupResource := by
          rw [groupResource_of_get? there,key]
          exact Ne.symm same
        simp [same,apart]
  · have same : (d.addVersion m r).get? gr = d.get? gr := by rw [addVersion,if_neg agrees]; rfl
    rw [same]
    split
    · rename_i hit
      rw [← hit,found,Mapping.extend,if_neg agrees]
    · rfl

/-- A report changes the mapping of its own resource, and no other. -/
theorem get?_add (gr : GroupResource) : (d.add singularize r).get? gr =
    if r.isResource ∧ r.groupResource = gr then some (Mapping.extend singularize (d.get? gr) r)
    else d.get? gr := by
  cases resource : r.isResource with
  | false => simp [add,resource]
  | true =>
    simp only [add,resource,if_true,true_and]
    cases found : d.get? r.groupResource with
    | none =>
      dsimp only
      rw [get?_addMapping]
      by_cases same : r.groupResource = gr
      · rw [if_pos same,if_pos same,← same,found]
        rfl
      · rw [if_neg same,if_neg same,Option.or_none]
    | some m =>
      dsimp only
      rw [get?_addVersion singularize d r found]
      by_cases same : r.groupResource = gr
      · rw [if_pos same,if_pos same,← same,found]
      · rw [if_neg same,if_neg same]

theorem get?_foldl (reports : List ResourceReport) (gr : GroupResource) :
    (reports.foldl (add singularize) empty).get? gr =
      Mapping.ofReports? singularize (reportsOf reports gr) := by
  induction reports using List.reverseRecOn with
  | nil => rfl
  | append_singleton reports r ih =>
    rw [List.foldl_append,List.foldl_cons,List.foldl_nil,get?_add,ih,reportsOf_append,
      reportsOf_singleton]
    split
    · rw [Mapping.ofReports?_append_singleton]
    · rw [List.append_nil]

theorem owner?_claimKind (gk other : GroupKind) (gr : GroupResource) :
    kindOwner? (d.claimKind gk gr).kinds other =
      (kindOwner? d.kinds other).or (if gk = other then some gr else none) := by
  unfold claimKind
  split
  · rename_i entry taken
    split
    · rename_i same
      have owned : kindOwner? d.kinds other = some entry.2 := by rw [kindOwner?,← same,taken]; rfl
      rw [owned]
      exact owned
    · rw [Option.or_none]
      rfl
  · simp only [kindOwner?,List.find?_append,Option.map_or]
    by_cases same : gk = other <;> simp [same]

/-- A report gives its kind to its resource if neither of them was reported before. -/
theorem owner?_add (gk : GroupKind) : kindOwner? (d.add singularize r).kinds gk =
    (kindOwner? d.kinds gk).or
      (if r.isResource ∧ d.get? r.groupResource = none ∧ r.groupKind = gk then some r.groupResource
        else none) := by
  cases resource : r.isResource with
  | false => simp [add,resource]
  | true =>
    simp only [add,resource,if_true,true_and]
    cases found : d.get? r.groupResource with
    | none =>
      simp only [addMapping,true_and]
      exact owner?_claimKind d r.groupKind gk r.groupResource
    | some m =>
      have kinds : (d.addVersion m r).kinds = d.kinds := by
        unfold addVersion
        split <;> rfl
      simp [kinds]

/-- A kind belongs to the resource of its first report that is of the resource's first kind. -/
theorem owner?_foldl (reports : List ResourceReport) (gk : GroupKind) :
    kindOwner? (reports.foldl (add singularize) empty).kinds gk =
      ((reportsOfKind reports gk).find? (ofFirstKind reports)).map ResourceReport.groupResource := by
  induction reports using List.reverseRecOn with
  | nil => rfl
  | append_singleton reports r ih =>
    have earlier : (reportsOfKind reports gk).find? (ofFirstKind (reports ++ [r])) =
        (reportsOfKind reports gk).find? (ofFirstKind reports) :=
      List.find?_congr fun q member => ofFirstKind_append (List.mem_of_mem_filter member) [r]
    have longer : reportsOfKind (reports ++ [r]) gk =
        reportsOfKind reports gk ++ if r.groupKind = gk then [r] else [] := by
      simp [reportsOfKind,List.filter_cons]
    rw [List.foldl_append,List.foldl_cons,List.foldl_nil,owner?_add,ih,longer,List.find?_append,
      earlier]
    simp only [get?_foldl,Mapping.ofReports?_eq_none_iff]
    -- Only a kind that belongs to nobody can come to belong to the last report's resource.
    cases owner : (reportsOfKind reports gk).find? (ofFirstKind reports) with
    | some q => rfl
    | none =>
      by_cases kind : r.groupKind = gk
      · have first := ofFirstKind_append_singleton_iff (kind ▸ owner)
        by_cases both : r.isResource ∧ reportsOf reports r.groupResource = []
        · simp [kind,both,first.mpr both]
        · simp [kind,both,mt first.mp both]
      · simp [kind]

end CatalogDraft

namespace Catalog

variable {singularize : String → String} {generation : Nat} {reports : List ResourceReport}

theorem get?_build (gr : GroupResource) : (build singularize generation reports).1.get? gr =
    Mapping.ofReports? singularize (reportsOf reports gr) :=
  CatalogDraft.get?_foldl singularize reports gr

theorem owner?_build (gk : GroupKind) :
    kindOwner? (build singularize generation reports).1.kinds gk =
      ((reportsOfKind reports gk).find? (ofFirstKind reports)).map ResourceReport.groupResource :=
  CatalogDraft.owner?_foldl singularize reports gk

end Catalog

end ObjectMetrics
