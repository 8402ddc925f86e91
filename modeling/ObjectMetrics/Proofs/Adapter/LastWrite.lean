import ObjectMetrics.Proofs.Adapter.Publication
import ObjectMetrics.Proofs.Catalog.Kinds
import ObjectMetrics.Proofs.Store.History

/-! What a read sees. After any run the store holds, for each identity and object, the record written
last, whatever spelling its write used and whichever catalog understood it. A read finds that record
under the identity that the catalog of the moment gives it. -/
namespace ObjectMetrics

theorem Catalog.wellFormed_ofListings (singularize : String → String) (listings : List Listing) :
    (ofListings singularize listings).WellFormed := by
  unfold ofListings
  cases (answered listings).getLast? with
  | none => exact wellFormed_empty
  | some reports => exact wellFormed_build singularize _ reports

namespace Adapter

theorem wellFormed_run (settings : AdapterSettings) (clock : Instant) (reports : List ResourceReport)
    (ops : List Operation) :
    ((start settings clock (.ofReports reports)).run ops).catalog.WellFormed := by
  rw [show Adapter.catalog _ = _ from (follows_run settings clock reports ops).catalog]
  exact Catalog.wellFormed_ofListings _ _

/-- An operation changes the store exactly by the record that it writes. -/
theorem store_perform (a : Adapter) (op : Operation) :
    (a.perform op).store = (a.record? op).elim a.store a.store.upsert := by
  have normalized (request : MetricRequest) : (a.normalize request).2.store = a.store :=
    view_normalize store rfl request
  cases op with
  | normalize request => exact normalized request
  | write request key value labels =>
    have clock : (a.normalize request).2.clock = a.clock :=
      view_normalize Adapter.clock rfl request
    rw [perform,write_state,record?,clock]
    cases (a.normalize request).1.toOption with
    | none => exact normalized request
    | some n => simp [record,normalized]
  | get request key selector =>
    rw [perform,get_state]
    exact normalized request
  | select request ns objects selector =>
    obtain ⟨inventory,left⟩ := select_state a request ns objects selector
    rw [perform,left]
    exact normalized request
  | _ => rfl

theorem get?_run (settings : AdapterSettings) (clock : Instant) (reports : List ResourceReport)
    (ops : List Operation) (i : MetricIdentity) (key : ObjectKey) :
    let fresh := start settings clock (.ofReports reports)
    (fresh.run ops).store.get? i key = lastRecord? (fresh.writes ops) i key := by
  intro fresh
  have run : (fresh.run ops).store = (fresh.writes ops).foldl Store.upsert fresh.store :=
    view_run store_perform fresh ops
  have unwritten : fresh.store.get? i key = none := rfl
  rw [run,Store.get?_foldl_upsert,unwritten,Option.or_none]

theorem get_of_normalizeNow {a : Adapter} {request : MetricRequest} {n : Normalized}
    (known : a.normalizeNow request = .ok n) (key : ObjectKey) (selector : Selector) :
    a.get request key selector =
      ((a.store.lookup n.identity key selector).bind (a.describe selector),a) := by
  rw [get,normalize_of_ok known]

theorem describe_of_decided {a : Adapter} (wf : a.catalog.WellFormed) {r : MetricRecord} {m : Mapping}
    (found : a.catalog.get? r.identity.resource = some m)
    (decided : r.identity.resource.group ≠ "" ∨ a.settings.preferredGroups.head? = some "")
    (selector : Selector) :
    a.describe selector r = .ok
      { object := ⟨m.kind,if m.group = "" then m.version else m.group ++ "/" ++ m.version,r.key⟩
        metric := r.identity.metric
        selector := if selector.requirements = [] then none else some selector.text
        timestamp := r.timestamp
        value := r.value } := by
  rw [describe,wf.kindOf_of_decided found decided]
  simp only [Selector.isEverything_iff]
  rfl

/-- A read after a run sees the record written last under the identity that its request has by now,
if the selector accepts that record's labels, and describes it by the resource's mapping of the
moment. Otherwise it finds nothing, and it has no other way to fail. -/
theorem get_last_write (settings : AdapterSettings) (clock : Instant)
    (reports : List ResourceReport) (ops : List Operation) (request : MetricRequest)
    (key : ObjectKey) (selector : Selector) (n : Normalized)
    (known : ((start settings clock (.ofReports reports)).run ops).normalizeNow request = .ok n)
    (decided : n.identity.resource.group ≠ "" ∨ settings.preferredGroups.head? = some "") :
    let fresh := start settings clock (.ofReports reports)
    let a := fresh.run ops
    ∃ m, a.catalog.get? n.identity.resource = some m ∧
      (a.get request key selector).1.toOption =
        ((lastRecord? (fresh.writes ops) n.identity key).filter fun w =>
          selector.isMetBy w.labels).map (fun w =>
            { object := ⟨m.kind,if m.group = "" then m.version else m.group ++ "/" ++ m.version,key⟩
              metric := n.identity.metric
              selector := if selector.requirements = [] then none else some selector.text
              timestamp := w.timestamp
              value := w.value }) ∧
      ∀ fault, (a.get request key selector).1 = .error fault → fault.faultClass = .notFound ∧
        (fault = .metricNotFound n.identity.resource n.identity.metric key.name ∨
          fault = .metricNotSelected n.identity.resource n.identity.metric key.name selector) := by
  intro fresh a
  have wf : a.catalog.WellFormed := wellFormed_run settings clock reports ops
  have kept : a.settings = settings := settings_run fresh ops
  obtain ⟨m,found⟩ := wf.get?_of_normalize known
  refine ⟨m,found,?_⟩
  have visible := a.store.toOption_lookup n.identity key selector
  rw [get?_run settings clock reports ops n.identity key] at visible
  rw [get_of_normalizeNow known,← visible]
  cases looked : a.store.lookup n.identity key selector with
  | error fault =>
    refine ⟨rfl,?_⟩
    rintro _ ⟨⟩
    exact ⟨of_decide_eq_true (Store.isNotFound_of_lookup looked),Store.error_of_lookup looked⟩
  | ok w =>
    -- the record stands under the identity that the request has now, so its kind is that of `m`
    obtain ⟨identity,rfl⟩ := Store.place_of_find? (Store.get?_of_lookup looked)
    rw [← identity] at found decided ⊢
    have described := describe_of_decided wf found (kept ▸ decided) selector
    change (a.describe selector w).toOption = some _ ∧
      ∀ fault, a.describe selector w = .error fault → _
    rw [described]
    exact ⟨rfl,by simp⟩

theorem get_last_write_other_spelling :
    let pods : GroupResource := ⟨"","pods"⟩
    let cpu (gr : GroupResource) : MetricRequest := ⟨gr,true,"cpu"⟩
    let web : ObjectKey := ⟨"default","web-0"⟩
    let tier (value : String) : Selector := ⟨[⟨"tier",.equals value⟩]⟩
    let fresh := start ⟨"",.builtin,[""],true,true,.samples⟩ ⟨0,0⟩
      (.ofReports [⟨"","v1","pods",true,"Pod",none⟩])
    let ops : List Operation :=
      [.write (cpu ⟨"","Pods"⟩) web 1 .empty,
        .setReports [⟨"metrics.k8s.io","v1beta1","pods",true,"PodMetrics",none⟩],
        .addReport ⟨"","v2","pods",true,"Pod",none⟩,.regenerate,
        .setReports [],.setDiscoveryFailure (some "down"),.regenerate,
        .setClock ⟨60,0⟩,.write (cpu ⟨"","pod"⟩) web 2 (.ofList [("tier","web")]),
        .write (cpu ⟨"metrics.k8s.io","pods"⟩) web 3 .empty]
    let a := fresh.run ops
    a.normalizeNow (cpu ⟨"","POD"⟩) = .ok ⟨⟨pods,true,"cpu"⟩,"pod",.namespaced⟩ ∧
      (a.get (cpu ⟨"","POD"⟩) web .everything).1.toOption =
        some ⟨⟨"Pod","v2",web⟩,"cpu",none,⟨60,0⟩,2⟩ ∧
      (a.get (cpu ⟨"","POD"⟩) web (tier "web")).1.toOption =
        some ⟨⟨"Pod","v2",web⟩,"cpu",some "tier=web",⟨60,0⟩,2⟩ ∧
      (a.get (cpu ⟨"","POD"⟩) web (tier "db")).1.toOption = none := by
  intro pods cpu web tier fresh ops a
  have known : a.normalizeNow (cpu ⟨"","POD"⟩) = .ok ⟨⟨pods,true,"cpu"⟩,"pod",.namespaced⟩ := by
    decide +kernel
  have mapped : a.catalog.get? pods = some ⟨"","pods","pod","Pod",.namespaced,"v2",[]⟩ := by
    decide +kernel
  let record : MetricRecord := ⟨⟨pods,true,"cpu"⟩,web,2,.ofList [("tier","web")],⟨60,0⟩⟩
  have last : lastRecord? (fresh.writes ops) ⟨pods,true,"cpu"⟩ web = some record := by
    decide +kernel
  have read (selector : Selector) : (a.get (cpu ⟨"","POD"⟩) web selector).1.toOption =
      ((some record).filter fun w => selector.isMetBy w.labels).map fun w =>
        ⟨⟨"Pod","v2",web⟩,"cpu",if selector.requirements = [] then none else some selector.text,
          w.timestamp,w.value⟩ := by
    obtain ⟨m,found,answer,_⟩ :=
      get_last_write _ _ _ ops (cpu ⟨"","POD"⟩) web selector _ known (.inr rfl)
    obtain rfl := Option.some.inj (mapped.symm.trans found)
    rw [last] at answer
    exact answer
  refine ⟨known,(read _).trans ?_,(read _).trans ?_,(read _).trans ?_⟩ <;> decide +kernel

end Adapter

end ObjectMetrics
