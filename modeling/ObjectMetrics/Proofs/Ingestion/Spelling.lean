import ObjectMetrics.Ingestion.Order
import ObjectMetrics.Proofs.Adapter.LastWrite
import ObjectMetrics.Proofs.Ingestion.Target

/-! Two spellings of one resource in the paths of writes. The catalog sees one resource, but the target
of a path counts as namespaced by the text of its resource, and the identity keeps that flag. -/
namespace ObjectMetrics

theorem Store.get?_upsert_upsert (s : Store) {r q : MetricRecord} (key : r.key = q.key) :
    ((s.upsert r).upsert q).get? r.identity r.key =
      some (if r.identity = q.identity then q else r) := by
  rw [get?_upsert,get?_upsert,if_pos (show r.place = (r.identity,r.key) from rfl)]
  have meets : q.place = (r.identity,r.key) ↔ r.identity = q.identity := by
    simp [MetricRecord.place,key,eq_comm]
  by_cases same : r.identity = q.identity
  · rw [if_pos same,if_pos (meets.mpr same)]
  · rw [if_neg same,if_neg (same ∘ meets.mp)]

namespace Adapter

def recordOf (a : Adapter) (m : Mapping) (order : WriteOrder) : MetricRecord where
  identity := ⟨m.groupResource,order.target.isNamespaced,order.target.metric⟩
  key := order.target.key
  value := order.value
  labels := order.labels
  timestamp := a.clock

theorem execute_of_resolve {a : Adapter} (wf : a.catalog.WellFormed) (order : WriteOrder)
    {m : Mapping}
    (resolved : a.catalog.resolve a.settings.preferredGroups
      (GroupResource.ofText order.target.resource).anyVersion = .ok m) :
    ∃ b, a.execute order = (.ok (a.recordOf m order),b) ∧
      b.catalog = a.catalog ∧ b.settings = a.settings ∧
      b.store = a.store.upsert (a.recordOf m order) := by
  have known : a.normalizeNow order.target.request =
      .ok (m.normalized order.target.isNamespaced order.target.metric) :=
    wf.normalize_eq_ok_iff.mpr ⟨m,resolved,rfl⟩
  rw [execute,write,normalize_of_ok known]
  exact ⟨_,rfl,rfl,rfl,rfl⟩

/-- Writes to the paths of two spellings of a resource meet in one record if the paths have a
namespace, or if both or neither of the spellings is `namespaces`. Without a namespace, `namespaces`
and another spelling of it lead to two records, whose identities differ in their flag alone. -/
theorem execute_other_spelling (a : Adapter) (singularize : String → String) (generation : Nat)
    (reports : List ResourceReport)
    (published : a.catalog = (Catalog.build singularize generation reports).1)
    (ns? : Option String) (spelled other name metric : String)
    (proper : ∀ part ∈ ns?.toList ++ [spelled,other,name,metric], WriteTarget.IsSegment part)
    (m : Mapping)
    (first : a.catalog.resolve a.settings.preferredGroups
      (GroupResource.ofText spelled).anyVersion = .ok m)
    (second : a.catalog.resolve a.settings.preferredGroups
      (GroupResource.ofText other).anyVersion = .ok m) :
    ∃ t u, WriteTarget.ofPath? (WriteTarget.path ns? spelled name metric) = some t ∧
      WriteTarget.ofPath? (WriteTarget.path ns? other name metric) = some u ∧
      ∀ value later labels others, ∃ r q b c,
        a.execute ⟨t,value,labels⟩ = (.ok r,b) ∧ b.execute ⟨u,later,others⟩ = (.ok q,c) ∧
        r.key = q.key ∧ q.identity = { r.identity with namespaced := u.isNamespaced } ∧
        (r.identity = q.identity ↔
          ns?.isSome ∨ (spelled = "namespaces" ↔ other = "namespaces")) ∧
        c.store.get? r.identity r.key = some (if r.identity = q.identity then q else r) := by
  have wf : a.catalog.WellFormed := by
    rw [published]
    exact Catalog.wellFormed_build singularize generation reports
  have inside : ∀ ns ∈ ns?, WriteTarget.IsSegment ns := fun ns given =>
    proper ns (List.mem_append_left _ (Option.mem_toList.mpr given))
  have target {resource : String} (either : resource = spelled ∨ resource = other) :
      WriteTarget.ofPath? (WriteTarget.path ns? resource name metric) =
        some ⟨resource,ns?.getD "",name,metric⟩ := by
    apply WriteTarget.ofPath?_path
    intro part member
    apply proper
    grind
  refine ⟨_,_,target (.inl rfl),target (.inr rfl),?_⟩
  intro value later labels others
  obtain ⟨b,wrote,catalog,settings,stored⟩ :=
    execute_of_resolve wf ⟨⟨spelled,ns?.getD "",name,metric⟩,value,labels⟩ first
  -- the first write changes neither the catalog nor the preferred groups that the second one meets
  rw [← catalog] at wf second
  rw [← settings] at second
  obtain ⟨c,again,_,_,kept⟩ :=
    execute_of_resolve wf ⟨⟨other,ns?.getD "",name,metric⟩,later,others⟩ second
  refine ⟨_,_,b,c,wrote,again,rfl,rfl,?_,?_⟩
  · simp only [recordOf,MetricIdentity.mk.injEq,true_and,and_true,
      WriteTarget.isNamespaced_getD inside]
    cases ns? <;> simp
  · rw [kept,stored]
    exact a.store.get?_upsert_upsert rfl

theorem execute_other_spelling_deployments :
    let reports : List ResourceReport := [⟨"apps","v1","deployments",true,"Deployment",none⟩]
    let a := (start ⟨"",.builtin,[],true,true,.samples⟩ ⟨0,0⟩ (.ofReports reports)).run [.regenerate]
    let t : WriteTarget := ⟨"deployment","","web","qps"⟩
    let u : WriteTarget := ⟨"Deployments.apps","","web","qps"⟩
    WriteTarget.ofPath? "deployment/web/qps" = some t ∧
    WriteTarget.ofPath? "Deployments.apps/web/qps" = some u ∧
    ∃ r q b c, a.execute ⟨t,1,.empty⟩ = (.ok r,b) ∧ b.execute ⟨u,2,.empty⟩ = (.ok q,c) ∧
      r.identity = q.identity ∧ c.store.get? r.identity r.key = some q := by
  intro reports a t u
  have published : a.catalog = (Catalog.build Inflection.builtin.singular 1 reports).1 := by
    decide +kernel
  have mapped (spelling : String) (either : spelling ∈ ["deployment","Deployments.apps"]) :
      a.catalog.resolve a.settings.preferredGroups (GroupResource.ofText spelling).anyVersion =
        .ok ⟨"apps","deployments","deployment","Deployment",.namespaced,"v1",[]⟩ := by
    revert spelling
    decide +kernel
  obtain ⟨t',u',first,second,written⟩ :=
    execute_other_spelling a _ _ _ published none "deployment" "Deployments.apps" "web" "qps"
      (by decide +kernel) _ (mapped _ (by simp)) (mapped _ (by simp))
  have plain : WriteTarget.ofPath? "deployment/web/qps" = some t := by decide +kernel
  have grouped : WriteTarget.ofPath? "Deployments.apps/web/qps" = some u := by decide +kernel
  obtain rfl := Option.some.inj (plain.symm.trans first)
  obtain rfl := Option.some.inj (grouped.symm.trans second)
  obtain ⟨r,q,b,c,wrote,again,_,_,meets,kept⟩ := written 1 2 .empty .empty
  have same : r.identity = q.identity := meets.mpr (.inr (by decide))
  exact ⟨plain,grouped,r,q,b,c,wrote,again,same,by rw [kept,if_pos same]⟩

/-- A namespace is the object of both paths, but only the plural makes the identity namespaced, so
the second write leaves the first record where it was. -/
theorem namespace_spellings_apart :
    let a := (start ⟨"",.builtin,[],true,true,.samples⟩ ⟨0,0⟩
      (.ofReports [⟨"","v1","namespaces",false,"Namespace",none⟩])).run [.regenerate]
    let m : Mapping := ⟨"","namespaces","namespace","Namespace",.cluster,"v1",[]⟩
    let t : WriteTarget := ⟨"namespaces","","prod","qps"⟩
    let u : WriteTarget := ⟨"namespace","","prod","qps"⟩
    a.catalog.resolve [] (GroupResource.ofText "namespaces").anyVersion = .ok m ∧
    a.catalog.resolve [] (GroupResource.ofText "namespace").anyVersion = .ok m ∧
    WriteTarget.ofPath? "namespaces/prod/qps" = some t ∧
    WriteTarget.ofPath? "namespace/prod/qps" = some u ∧
    a.normalizeNow t.request = .ok ⟨⟨⟨"","namespaces"⟩,true,"qps"⟩,"namespace",.cluster⟩ ∧
    a.normalizeNow u.request = .ok ⟨⟨⟨"","namespaces"⟩,false,"qps"⟩,"namespace",.cluster⟩ ∧
    ((a.execute ⟨t,1,.empty⟩).2.execute ⟨u,2,.empty⟩).2.store.size = 2 := by
  decide +kernel

end Adapter

end ObjectMetrics
