import ObjectMetrics.Proofs.Adapter.Operation

/-! What the published catalog is made of. The mapper is the part of an adapter that takes up
listings; an operation changes it exactly when it gets one. After any run the catalog is the one of
the last listing that was answered. -/
namespace ObjectMetrics

/-- The part of an adapter that takes up listings: the registry, the failures that it has reported,
and the calls of discovery. -/
structure Mapper where
  inflection : Inflection
  registry : Registry
  failures : Nat
  calls : Nat

def Adapter.mapper (a : Adapter) : Mapper :=
  ⟨a.settings.inflection,a.registry,a.telemetry.regenerationErrors,a.discovery.calls⟩

def answered (listings : List Listing) : List (List ResourceReport) :=
  listings.filterMap Except.toOption

def Catalog.ofListings (singularize : String → String) (listings : List Listing) : Catalog :=
  (answered listings).getLast?.elim empty fun reports =>
    (build singularize (answered listings).length reports).1

namespace Mapper

def take (m : Mapper) (listing : Listing) : Mapper :=
  let p := m.registry.publish m.inflection.singular listing
  { m with
    registry := p.registry.conclude p.outcome
    failures := match listing with
      | .error _ => m.failures + 1
      | .ok _ => m.failures
    calls := m.calls + 1 }

/-- After some listings each is an attempt and a call, the failed ones have been reported, and the
catalog is that of the last one answered. -/
structure Follows (listings : List Listing) (m : Mapper) : Prop where
  attempts : m.registry.attempts = listings.length
  calls : m.calls = listings.length
  failures : (answered listings).length + m.failures = listings.length
  generation : m.registry.catalog.generation = (answered listings).length
  catalog : m.registry.catalog = Catalog.ofListings m.inflection.singular listings

namespace Follows

variable {listings : List Listing} {m : Mapper}

theorem take (follows : Follows listings m) (listing : Listing) :
    Follows (listings ++ [listing]) (m.take listing) := by
  obtain ⟨attempts,calls,failures,generation,catalog⟩ := follows
  cases listing with
  | error failure =>
    have same : answered (listings ++ [.error failure]) = answered listings := by
      simp [answered,Except.toOption]
    refine ⟨?_,?_,?_,?_,?_⟩
    · simp [Mapper.take,Registry.publish,Registry.conclude,attempts]
    · simp [Mapper.take,calls]
    · simp only [same,Mapper.take,List.length_append,List.length_singleton]
      omega
    · rw [same]
      exact generation
    · rw [Catalog.ofListings,same]
      exact catalog
  | ok reports =>
    have more : answered (listings ++ [.ok reports]) = answered listings ++ [reports] := by
      simp [answered,Except.toOption]
    refine ⟨?_,?_,?_,?_,?_⟩
    · simp [Mapper.take,Registry.publish,Registry.conclude,attempts]
    · simp [Mapper.take,calls]
    · simp only [more,Mapper.take,List.length_append,List.length_singleton]
      omega
    · simp [more,Mapper.take,Registry.publish,Registry.conclude,Catalog.build,generation]
    · simp [Catalog.ofListings,more,Mapper.take,Registry.publish,Registry.conclude,generation]

theorem foldl (follows : Follows listings m) (later : List Listing) :
    Follows (listings ++ later) (later.foldl Mapper.take m) := by
  induction later generalizing listings m with
  | nil => simpa using follows
  | cons listing later ih => simpa using ih (follows.take listing)

end Follows

end Mapper

namespace Adapter

theorem mapper_regenerate (a : Adapter) :
    a.regenerate.2.mapper = a.mapper.take a.discovery.listing := by
  cases listed : a.discovery.listing <;>
    simp [regenerate,noteListing,mapper,Mapper.take,Registry.publish,listed,Telemetry.reportFailure,
      Telemetry.log,DiscoverySource.called]

theorem mapper_tick (a : Adapter) (watchers : Watchers) :
    (a.tick watchers).2.mapper = a.regenerate.2.mapper := by
  unfold tick
  rcases a.regenerate with ⟨fault | generation,b⟩
  · rfl
  · cases watchers.log <;> rfl

theorem mapper_normalize (a : Adapter) (request : MetricRequest) :
    (a.normalize request).2.mapper =
      (if a.misses request then some a.discovery.listing else none).elim a.mapper a.mapper.take := by
  rw [normalize_state]
  split
  · exact mapper_regenerate a
  · rfl

/-- An operation changes the mapper exactly by the listing that it gets. -/
theorem mapper_perform (a : Adapter) (op : Operation) :
    (a.perform op).mapper = (a.listing? op).elim a.mapper a.mapper.take := by
  cases op with
  | regenerate => exact mapper_regenerate a
  | tick watchers => exact (mapper_tick a watchers).trans (mapper_regenerate a)
  | normalize request | write request | get request | select request =>
    exact (view_perform_request (fun _ _ => rfl) (fun _ _ => rfl) a rfl).trans
      (mapper_normalize a request)
  | _ => rfl

theorem follows_start (settings : AdapterSettings) (clock : Instant) (reports : List ResourceReport) :
    Mapper.Follows [] (start settings clock (.ofReports reports)).mapper :=
  ⟨rfl,rfl,rfl,rfl,rfl⟩

theorem follows_run (settings : AdapterSettings) (clock : Instant) (reports : List ResourceReport)
    (ops : List Operation) :
    let a := start settings clock (.ofReports reports)
    Mapper.Follows (a.listings ops) (a.run ops).mapper := by
  intro a
  have run : (a.run ops).mapper = (a.listings ops).foldl Mapper.take a.mapper :=
    view_run mapper_perform a ops
  rw [run]
  exact (follows_start settings clock reports).foldl (a.listings ops)

/-- An operation publishes the catalog of the listing that it gets, under the next generation. If it
gets none, or a failure, the catalog stays. -/
theorem catalog_perform (a : Adapter) (op : Operation) :
    (a.perform op).catalog = match a.listing? op with
      | some (.ok reports) =>
        (Catalog.build a.settings.inflection.singular (a.catalog.generation + 1) reports).1
      | _ => a.catalog := by
  have step : (a.perform op).catalog = ((a.listing? op).elim a.mapper a.mapper.take).registry.catalog :=
    congrArg (fun m => m.registry.catalog) (mapper_perform a op)
  rw [step]
  rcases a.listing? op with _ | failure | reports <;> rfl

/-- Between the operations of a run each call of discovery is a completed attempt, which either
raised the generation by one or was reported as a failure. The catalog is the one of the last
listing that was answered, and an operation that gets no answer leaves it as it is. -/
theorem catalog_of_last_listing (settings : AdapterSettings) (clock : Instant)
    (reports : List ResourceReport) (ops : List Operation) :
    let fresh := start settings clock (.ofReports reports)
    let a := fresh.run ops
    let listings := fresh.listings ops
    a.catalog.generation + a.telemetry.regenerationErrors = a.registry.attempts ∧
    a.registry.attempts = a.discovery.calls ∧
    a.discovery.calls = listings.length ∧
    a.catalog.generation = (answered listings).length ∧
    a.catalog = ((answered listings).getLast?.elim .empty fun latest =>
      (Catalog.build settings.inflection.singular a.catalog.generation latest).1) ∧
    ∀ op, (a.perform op).settings = a.settings ∧
      (a.perform op).catalog = match a.listing? op with
        | some (.ok latest) =>
          (Catalog.build settings.inflection.singular (a.catalog.generation + 1) latest).1
        | _ => a.catalog := by
  intro fresh a listings
  obtain ⟨attempts,calls,failures,generation,catalog⟩ := follows_run settings clock reports ops
  have kept : a.settings = settings := settings_run fresh ops
  refine ⟨?_,attempts.trans calls.symm,calls,generation,?_,?_⟩
  · have sum : a.catalog.generation + a.telemetry.regenerationErrors = listings.length := by
      rw [show a.catalog.generation = (answered listings).length from generation]
      exact failures
    exact sum.trans attempts.symm
  · rw [show a.catalog.generation = (answered listings).length from generation,← kept]
    exact catalog
  · intro op
    refine ⟨settings_perform a op,?_⟩
    rw [← kept]
    exact catalog_perform a op

theorem catalog_of_last_listing_between_failures :
    let pods : ResourceReport := ⟨"","v1","pods",true,"Pod",none⟩
    let nodes : ResourceReport := ⟨"","v1","nodes",false,"Node",none⟩
    let settings : AdapterSettings := ⟨"",.builtin,[],true,true,.samples⟩
    let fresh := start settings ⟨0,0⟩ (.ofReports [])
    let ops : List Operation :=
      [.setReports [pods],.addReport nodes,.regenerate,.setReports [],
        .setDiscoveryFailure (some "down"),.normalize ⟨⟨"","jobs"⟩,true,"cpu"⟩]
    let a := fresh.run ops
    answered (fresh.listings ops) = [[pods,nodes]] ∧ (fresh.listings ops).length = 2 ∧
    a.registry.attempts = 2 ∧ a.telemetry.regenerationErrors = 1 ∧
    a.catalog = (Catalog.build settings.inflection.singular 1 [pods,nodes]).1 := by
  intro pods nodes settings fresh ops a
  have shown : answered (fresh.listings ops) = [[pods,nodes]] := by decide +kernel
  have asked : (fresh.listings ops).length = 2 := by decide +kernel
  subst a fresh
  obtain ⟨sum,attempts,calls,generation,catalog,_⟩ := catalog_of_last_listing settings ⟨0,0⟩ [] ops
  rw [calls,asked] at attempts
  rw [generation,shown,attempts,List.length_singleton] at sum
  rw [generation,shown,List.length_singleton,List.getLast?_singleton] at catalog
  exact ⟨shown,asked,attempts,Nat.eq_sub_of_add_eq' sum,catalog⟩

end Adapter

end ObjectMetrics
