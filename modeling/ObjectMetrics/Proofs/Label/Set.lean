import ObjectMetrics.Label.Selector
import ObjectMetrics.Proofs.Order.Keyed

/-! Label sets as finite maps. A set is determined by the values of its keys, a list of labels leaves
the last value of each key, and the selector of a set asks for its labels and nothing else. -/
namespace ObjectMetrics.LabelSet

theorem nodup_keys (labels : LabelSet) : (labels.entries.map Prod.fst).Nodup := by
  rw [List.Nodup,List.pairwise_map]
  apply labels.increasing.imp
  intro a b less same
  exact Std.lt_irrefl (same ▸ less)

theorem get?_eq_some_iff {labels : LabelSet} {key value : String} :
    labels.get? key = some value ↔ (key,value) ∈ labels.entries := by
  rw [get?,Option.map_eq_some_iff]
  constructor
  · rintro ⟨entry,found,rfl⟩
    obtain ⟨member,rfl⟩ := (Order.find?_eq_some_iff labels.nodup_keys).mp found
    exact member
  · intro member
    exact ⟨(key,value),(Order.find?_eq_some_iff labels.nodup_keys).mpr ⟨member,rfl⟩,rfl⟩

theorem mem_keys_iff {labels : LabelSet} {key : String} :
    key ∈ labels.entries.map Prod.fst ↔ (labels.get? key).isSome := by
  simp only [List.mem_map,Prod.exists,exists_and_right,exists_eq_right,Option.isSome_iff_exists,
    get?_eq_some_iff]

theorem eq_of_get? {a b : LabelSet} (same : ∀ key, a.get? key = b.get? key) : a = b := by
  have perm : a.entries.Perm b.entries := by
    rw [List.perm_ext_iff_of_nodup (List.Nodup.of_map _ a.nodup_keys)
      (List.Nodup.of_map _ b.nodup_keys)]
    rintro ⟨key,value⟩
    rw [← get?_eq_some_iff,← get?_eq_some_iff,same]
  have entries : a.entries = b.entries := by
    apply perm.eq_of_pairwise _ a.increasing b.increasing
    intro x y _ _ less more
    exact absurd (Std.lt_trans less more) Std.lt_irrefl
  cases a
  cases b
  congr

theorem get?_ofList (pairs : List (String × String)) (key : String) :
    (ofList pairs).get? key = (Order.last? Prod.fst pairs key).map Prod.snd := by
  induction pairs using List.reverseRecOn with
  | nil => rfl
  | append_singleton pairs pair ih =>
    have step : ofList (pairs ++ [pair]) = (ofList pairs).insert pair.1 pair.2 := by
      rw [ofList,ofList,List.foldl_append]
      rfl
    rw [step,get?_insert,ih,Order.last?,Order.last?,List.reverse_append]
    by_cases hit : pair.1 = key
    · simp [hit]
    · simp [hit]

theorem mem_keys_ofList_iff {pairs : List (String × String)} {key : String} :
    key ∈ (ofList pairs).entries.map Prod.fst ↔ key ∈ pairs.map Prod.fst := by
  rw [mem_keys_iff,get?_ofList,Option.isSome_map,Order.last?,List.find?_isSome,List.mem_map]
  simp only [List.mem_reverse,decide_eq_true_eq]

theorem mem_of_mem_ofList {pairs : List (String × String)} {pair : String × String}
    (member : pair ∈ (ofList pairs).entries) : pair ∈ pairs := by
  have found := get?_eq_some_iff.mpr member
  rw [get?_ofList,Option.map_eq_some_iff] at found
  obtain ⟨last,found,value⟩ := found
  have key : last.1 = pair.1 := by simpa using List.find?_some found
  have same : last = pair := Prod.ext key value
  exact List.mem_reverse.mp (same ▸ List.mem_of_find?_eq_some found)

theorem ofList_entries (labels : LabelSet) : ofList labels.entries = labels := by
  apply eq_of_get?
  intro key
  have once : (labels.entries.reverse.map Prod.fst).Nodup := by
    rw [List.map_reverse,List.nodup_reverse]
    exact labels.nodup_keys
  apply Option.ext
  intro value
  rw [get?_ofList,get?_eq_some_iff,Order.last?,Option.map_eq_some_iff]
  constructor
  · rintro ⟨entry,found,rfl⟩
    obtain ⟨member,rfl⟩ := (Order.find?_eq_some_iff once).mp found
    exact List.mem_reverse.mp member
  · intro member
    have found := (Order.find?_eq_some_iff once).mpr ⟨List.mem_reverse.mpr member,rfl⟩
    exact ⟨(key,value),found,rfl⟩

/-- The selector of one set matches another exactly if the other has all its labels. -/
theorem isMetBy_ofLabels_iff {a b : LabelSet} :
    (Selector.ofLabels a).isMetBy b ↔
      ∀ key value, a.get? key = some value → b.get? key = some value := by
  simp only [Selector.isMetBy,Selector.ofLabels,List.all_map,List.all_eq_true,Function.comp_apply,
    Label.Requirement.isMetBy,Label.Condition.holds,beq_iff_eq,Prod.forall,get?_eq_some_iff]

theorem eq_iff_isMetBy_ofLabels {a b : LabelSet} :
    a = b ↔ (Selector.ofLabels a).isMetBy b ∧ (Selector.ofLabels b).isMetBy a := by
  simp only [isMetBy_ofLabels_iff]
  constructor
  · rintro rfl
    exact ⟨fun _ _ found => found,fun _ _ found => found⟩
  · rintro ⟨left,right⟩
    apply eq_of_get?
    intro key
    apply Option.ext
    intro value
    exact ⟨left key value,right key value⟩

end ObjectMetrics.LabelSet
