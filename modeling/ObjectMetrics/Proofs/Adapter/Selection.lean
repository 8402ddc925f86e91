import ObjectMetrics.Proofs.Adapter.LastWrite

/-! Selecting objects beside reading them one by one. A selection asks the lister once and describes
the records that it finds in one pass; for a request that the catalog understands it answers as single
reads do, because describing a found record never fails as if it were not there. -/
namespace ObjectMetrics.Adapter

/-- One read for each name. What is not found is left out, and any other fault ends it. -/
def getEach (request : MetricRequest) (ns : String) (selector : Selector) :
    List String → Adapter → Except Fault (List MetricValue) × Adapter
  | [], a => (.ok [],a)
  | name :: names, a =>
    match a.get request ⟨ns,name⟩ selector with
    | (.ok value,a) =>
      let (values,a) := getEach request ns selector names a
      (values.map (value :: ·),a)
    | (.error fault,a) =>
      if fault.isNotFound then getEach request ns selector names a else (.error fault,a)

theorem not_isNotFound_of_describe {a : Adapter} (wf : a.catalog.WellFormed) {r : MetricRecord}
    {m : Mapping} (found : a.catalog.get? r.identity.resource = some m) {selector : Selector}
    {fault : Fault} (failed : a.describe selector r = .error fault) : ¬ fault.isNotFound := by
  unfold describe at failed
  cases kind : a.catalog.kindOf a.settings.preferredGroups r.identity.resource.anyVersion with
  | ok gvk => simp [kind,Except.map] at failed
  | error other =>
    obtain rfl : other = fault := by simpa [kind,Except.map] using failed
    exact wf.not_isNotFound_of_kindOf found kind

theorem valuesOf_cons_of_error {a : Adapter} {i : MetricIdentity} {ns name : String}
    {selector : Selector} {fault : Fault}
    (missing : a.store.lookup i ⟨ns,name⟩ selector = .error fault) (names : List String) :
    a.valuesOf i ns selector (.ok (name :: names)) = a.valuesOf i ns selector (.ok names) := by
  have skipped : a.store.lookupAll i ns selector (name :: names) =
      a.store.lookupAll i ns selector names := by
    simp [Store.lookupAll,missing,Except.toOption]
  rw [valuesOf,Store.select,skipped]
  rfl

theorem valuesOf_cons_of_ok {a : Adapter} {i : MetricIdentity} {ns name : String}
    {selector : Selector} {r : MetricRecord}
    (looked : a.store.lookup i ⟨ns,name⟩ selector = .ok r) (names : List String) :
    a.valuesOf i ns selector (.ok (name :: names)) =
      (a.describe selector r).bind fun value =>
        (a.valuesOf i ns selector (.ok names)).map (value :: ·) := by
  have taken : a.store.lookupAll i ns selector (name :: names) =
      r :: a.store.lookupAll i ns selector names := by
    simp [Store.lookupAll,looked,Except.toOption]
  rw [valuesOf,Store.select,taken]
  change (r :: _).mapM (a.describe selector) = _
  rw [List.mapM_cons]
  rfl

theorem getEach_eq {a : Adapter} (wf : a.catalog.WellFormed) {request : MetricRequest}
    {n : Normalized} (known : a.normalizeNow request = .ok n) (ns : String) (selector : Selector)
    (names : List String) :
    getEach request ns selector names a = (a.valuesOf n.identity ns selector (.ok names),a) := by
  obtain ⟨m,found⟩ := wf.get?_of_normalize known
  induction names with
  | nil => rfl
  | cons name names ih =>
    rw [getEach,get_of_normalizeNow known]
    cases looked : a.store.lookup n.identity ⟨ns,name⟩ selector with
    | error fault =>
      rw [valuesOf_cons_of_error looked]
      simp only [Except.bind,Store.isNotFound_of_lookup looked,if_true,ih]
    | ok r =>
      rw [valuesOf_cons_of_ok looked]
      have place := Store.place_of_find? (Store.get?_of_lookup looked)
      cases described : a.describe selector r with
      | ok value => simp only [Except.bind,described,ih]
      | error fault =>
        -- the record's resource is in the catalog, so no read leaves this fault out
        have other := not_isNotFound_of_describe wf (place.1 ▸ found) described
        simp only [Except.bind,described,other]
        rfl

/-- For a request that the catalog understands, a selection answers as reads of the listed objects
one by one do, whatever names the lister gives, and it fails as transient if the lister fails. It
changes nothing but the lister's count of calls. -/
theorem select_one_by_one (a : Adapter) (singularize : String → String) (generation : Nat)
    (reports : List ResourceReport)
    (published : a.catalog = (Catalog.build singularize generation reports).1)
    (request : MetricRequest) (n : Normalized) (known : a.normalizeNow request = .ok n) (ns : String)
    (objects selector : Selector) :
    (∀ names, getEach request ns selector names a =
      (a.valuesOf n.identity ns selector (.ok names),a)) ∧
    (∀ failure, a.valuesOf n.identity ns selector (.error failure) =
      .error (.transient .objectLister failure)) ∧
    a.select request ns objects selector =
      (a.valuesOf n.identity ns selector (a.inventory.list n.identity.resource ns objects).1,
        { a with inventory := (a.inventory.list n.identity.resource ns objects).2 }) := by
  have wf : a.catalog.WellFormed := by
    rw [published]
    exact Catalog.wellFormed_build singularize generation reports
  refine ⟨getEach_eq wf known ns selector,fun _ => rfl,?_⟩
  rw [select,normalize_of_ok known]

theorem select_one_by_one_partial :
    let cpu : MetricRequest := ⟨⟨"","pod"⟩,true,"cpu"⟩
    let reports : List ResourceReport := [⟨"","v1","pods",true,"Pod",none⟩]
    let web (name : String) : ObjectKey := ⟨"default",name⟩
    let tier : Selector := ⟨[⟨"tier",.equals "web"⟩]⟩
    let a := (start ⟨"",.builtin,[],true,true,.samples⟩ ⟨0,0⟩ (.ofReports reports)).run
      [.addObject ⟨⟨"","pods"⟩,web "a",.empty⟩,.addObject ⟨⟨"","pods"⟩,web "b",.empty⟩,
        .addObject ⟨⟨"","pods"⟩,web "c",.empty⟩,.write cpu (web "b") 1 .empty,
        .write cpu (web "c") 2 (.ofList [("tier","web")])]
    a.catalog = (Catalog.build Inflection.builtin.singular 1 reports).1 ∧
    a.normalizeNow cpu = .ok ⟨⟨⟨"","pods"⟩,true,"cpu"⟩,"pod",.namespaced⟩ ∧
    (a.select cpu "default" .everything tier).1 =
      (getEach cpu "default" tier ["a","b","c"] a).1 ∧
    (a.select cpu "default" .everything tier).1 =
      .ok [⟨⟨"Pod","v1",web "c"⟩,"cpu",some "tier=web",⟨0,0⟩,2⟩] ∧
    ((a.perform (.setInventoryFailure (some "down"))).select cpu "default" .everything tier).1 =
      .error (.transient .objectLister ⟨"down",[]⟩) := by
  intro cpu reports web tier a
  have published : a.catalog = (Catalog.build Inflection.builtin.singular 1 reports).1 := by
    decide +kernel
  have known : a.normalizeNow cpu = .ok ⟨⟨⟨"","pods"⟩,true,"cpu"⟩,"pod",.namespaced⟩ := by
    decide +kernel
  have listed : (a.inventory.list ⟨"","pods"⟩ "default" .everything).1 = .ok ["a","b","c"] := by
    decide +kernel
  obtain ⟨each,_,selected⟩ :=
    select_one_by_one a _ _ _ published cpu _ known "default" .everything tier
  refine ⟨published,known,?_,?_,?_⟩
  · rw [selected,each,listed]
  · decide +kernel
  · decide +kernel

end ObjectMetrics.Adapter
