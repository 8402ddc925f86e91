import ObjectMetrics.Proofs.Order.Keyed
import ObjectMetrics.Proofs.Order.Stable
import ObjectMetrics.Store

/-! The store beside the history of its writes. It answers from the last record of each identity and
object, and whatever was written elsewhere does not show. -/
namespace ObjectMetrics

/-- The last record of an identity and an object. -/
def lastRecord? (records : List MetricRecord) (i : MetricIdentity) (key : ObjectKey) :
    Option MetricRecord :=
  records.reverse.find? fun r => r.identity = i ∧ r.key = key

theorem lastRecord?_eq (records : List MetricRecord) (i : MetricIdentity) (key : ObjectKey) :
    lastRecord? records i key = Order.last? MetricRecord.place records (i,key) := by
  simp only [lastRecord?,Order.last?,MetricRecord.place_eq_iff]

namespace MetricIdentity

/-- The order in which identities are listed: by group, by resource, those without the namespaced flag
before those with it, and by metric. -/
def Precedes (i j : MetricIdentity) : Prop :=
  i.resource.group < j.resource.group ∨ i.resource.group = j.resource.group ∧
    (i.resource.resource < j.resource.resource ∨ i.resource.resource = j.resource.resource ∧
      (i.namespaced < j.namespaced ∨ i.namespaced = j.namespaced ∧ i.metric < j.metric))

theorem sortKey_lt_iff {i j : MetricIdentity} : i.sortKey < j.sortKey ↔ i.Precedes j := by
  have flags : (if i.namespaced then "namespaced" else "cluster") <
      (if j.namespaced then "namespaced" else "cluster") ↔ i.namespaced < j.namespaced := by
    cases i.namespaced <;> cases j.namespaced <;> decide
  have same : (if i.namespaced then "namespaced" else "cluster") =
      (if j.namespaced then "namespaced" else "cluster") ↔ i.namespaced = j.namespaced := by
    cases i.namespaced <;> cases j.namespaced <;> decide
  simp only [sortKey,Precedes,List.cons_lt_cons_iff,flags,same,List.not_lt_nil,and_false,or_false]

end MetricIdentity

namespace Store

theorem records_foldl_upsert (records : List MetricRecord) (s : Store) :
    (records.foldl upsert s).records = Order.putAll MetricRecord.place records s.records := by
  induction records generalizing s with
  | nil => rfl
  | cons r records ih => exact ih (s.upsert r)

theorem get?_foldl_upsert (s : Store) (records : List MetricRecord) (i : MetricIdentity)
    (key : ObjectKey) :
    (records.foldl upsert s).get? i key = (lastRecord? records i key).or (s.get? i key) := by
  rw [get?,records_foldl_upsert,Order.find?_putAll,lastRecord?_eq]
  rfl

theorem increasing_identities (s : Store) : s.identities.Pairwise MetricIdentity.Precedes :=
  (Order.increasing_distinct MetricIdentity.sortKey _).imp MetricIdentity.sortKey_lt_iff.mp

theorem mem_identities_iff {s : Store} {i : MetricIdentity} :
    i ∈ s.identities ↔ ∃ key, (i,key) ∈ s.records.map MetricRecord.place := by
  have listed : i ∈ s.identities ↔ i ∈ s.records.map MetricRecord.identity :=
    Order.mem_distinct_iff fun _ _ => MetricIdentity.sortKey_inj
  rw [listed]
  simp [MetricRecord.place]

theorem mem_places_iff {s : Store} {i : MetricIdentity} {key : ObjectKey} :
    (i,key) ∈ s.records.map MetricRecord.place ↔ ∃ w, s.lookup i key .everything = .ok w := by
  have stored : (i,key) ∈ s.records.map MetricRecord.place ↔ (s.get? i key).isSome := by
    rw [get?,List.find?_isSome]
    simp
  rw [stored,lookup]
  cases s.get? i key <;> simp

theorem get?_history (history : List MetricRecord) (i : MetricIdentity) (key : ObjectKey) :
    (history.foldl upsert empty).get? i key = lastRecord? history i key := by
  rw [get?_foldl_upsert,show empty.get? i key = none from rfl,Option.or_none]

theorem lastRecord?_filter (history : List MetricRecord) (i : MetricIdentity) (key : ObjectKey) :
    lastRecord? (history.filter fun r => r.identity = i ∧ r.key = key) i key =
      lastRecord? history i key := by
  simp only [lastRecord?_eq,← MetricRecord.place_eq_iff]
  exact Order.last?_filter MetricRecord.place history (i,key)

/-- After any history of writes a lookup answers from the last record of its identity and object, if
there is one and its labels satisfy the selector, and tells the two failures apart; writes elsewhere
make no difference to it. The store holds one record for each identity and object written, and lists,
in their order, the identities that were written, which are those that have a record to read. -/
theorem lookup_of_history (history : List MetricRecord) :
    let s := history.foldl upsert empty
    (∀ i key selector, s.lookup i key selector = match lastRecord? history i key with
      | none => .error (.metricNotFound i.resource i.metric key.name)
      | some w =>
        if selector.isMetBy w.labels then .ok w
        else .error (.metricNotSelected i.resource i.metric key.name selector)) ∧
    (∀ i key selector, s.lookup i key selector =
      ((history.filter fun r => r.identity = i ∧ r.key = key).foldl upsert empty).lookup i key
        selector) ∧
    s.size = (history.map fun r => (r.identity,r.key)).toFinset.card ∧
    s.identities.Pairwise MetricIdentity.Precedes ∧
    (∀ i, i ∈ s.identities ↔ ∃ w ∈ history, w.identity = i) ∧
    ∀ i, i ∈ s.identities ↔ ∃ key w, s.lookup i key .everything = .ok w := by
  intro s
  have records : s.records = Order.putAll MetricRecord.place history [] :=
    records_foldl_upsert history empty
  refine ⟨fun i key selector => ?_,fun i key selector => ?_,?_,increasing_identities s,fun i => ?_,
    fun i => ?_⟩
  · have stored : s.get? i key = lastRecord? history i key := get?_history history i key
    cases last : lastRecord? history i key with
    | none => simp only [lookup,stored,last]
    | some w => simp only [lookup,stored,last]
  · rw [lookup,lookup,get?_history,get?_history,lastRecord?_filter]
  · rw [size,records,Order.length_putAll]
    rfl
  · rw [mem_identities_iff,records]
    simp only [Order.mem_keys_putAll,List.map_nil,List.not_mem_nil,or_false]
    simp [MetricRecord.place]
  · simp only [mem_identities_iff,mem_places_iff]

theorem lookup_of_history_two_pods :
    let cpu : MetricIdentity := ⟨⟨"","pods"⟩,true,"cpu"⟩
    let web : ObjectKey := ⟨"shop","web-0"⟩
    let front : LabelSet := LabelSet.ofList [("tier","front")]
    let history : List MetricRecord := [⟨cpu,web,1,front,⟨0,0⟩⟩,⟨cpu,⟨"shop","web-1"⟩,2,.empty,⟨5,0⟩⟩,
      ⟨cpu,web,3,.empty,⟨9,0⟩⟩,⟨cpu,⟨"store","web-0"⟩,4,front,⟨9,0⟩⟩]
    let s := history.foldl upsert empty
    let inFront : Selector := ⟨[⟨"tier",.equals "front"⟩]⟩
    s.lookup cpu web .everything = .ok ⟨cpu,web,3,.empty,⟨9,0⟩⟩ ∧
    s.lookup cpu ⟨"shop","web-1"⟩ .everything = .ok ⟨cpu,⟨"shop","web-1"⟩,2,.empty,⟨5,0⟩⟩ ∧
    s.lookup cpu web inFront = .error (.metricNotSelected ⟨"","pods"⟩ "cpu" "web-0" inFront) ∧
    s.lookup cpu ⟨"","web-0"⟩ inFront = .error (.metricNotFound ⟨"","pods"⟩ "cpu" "web-0") ∧
    s.size = 3 := by
  intro cpu web front history s inFront
  obtain ⟨looked,_,size,_⟩ := lookup_of_history history
  refine ⟨(looked ..).trans ?_,(looked ..).trans ?_,(looked ..).trans ?_,(looked ..).trans ?_,
    size.trans ?_⟩ <;> decide +kernel

end Store

end ObjectMetrics
