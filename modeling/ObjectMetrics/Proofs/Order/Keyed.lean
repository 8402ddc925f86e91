import Mathlib.Data.Finset.Card
import Mathlib.Data.List.Induction
import Mathlib.Data.List.Nodup
import ObjectMetrics.Order.Keyed

/-! What a history of puts leaves: for each key that occurs in it one element, the one put last. -/
namespace ObjectMetrics.Order

variable {α κ : Type} [DecidableEq κ]

/-- The last element of a key in a history. -/
def last? (key : α → κ) (history : List α) (k : κ) : Option α :=
  history.reverse.find? fun x => key x = k

/-- The elements after a history of puts, in the order of their keys' first puts. -/
def putAll (key : α → κ) (history xs : List α) : List α :=
  history.foldl (fun xs x => put key x xs) xs

theorem find?_eq_some_iff {key : α → κ} {xs : List α} (once : (xs.map key).Nodup) {k : κ} {x : α} :
    xs.find? (fun y => key y = k) = some x ↔ x ∈ xs ∧ key x = k := by
  constructor
  · intro found
    exact ⟨List.mem_of_find?_eq_some found,by simpa using List.find?_some found⟩
  · rintro ⟨member,rfl⟩
    cases found : xs.find? fun y => key y = key x with
    | none =>
      have differ := List.find?_eq_none.mp found x member
      simp at differ
    | some y =>
      have there := List.mem_of_find?_eq_some found
      have same : key y = key x := by simpa using List.find?_some found
      rw [List.inj_on_of_nodup_map once there member same]

variable (key : α → κ)

theorem last?_filter (history : List α) (k : κ) :
    last? key (history.filter fun x => key x = k) k = last? key history k := by
  rw [last?,last?,← List.filter_reverse,List.find?_filter]
  simp

theorem find?_putAll (history xs : List α) (k : κ) :
    (putAll key history xs).find? (fun x => key x = k) =
      (last? key history k).or (xs.find? fun x => key x = k) := by
  induction history generalizing xs with
  | nil => rfl
  | cons x history ih =>
    have rest : putAll key (x :: history) xs = putAll key history (put key x xs) := rfl
    rw [rest,ih,find?_put,last?,last?,List.reverse_cons,List.find?_append,Option.or_assoc]
    by_cases same : key x = k <;> simp [same]

theorem nodup_keys_put {xs : List α} (once : (xs.map key).Nodup) (x : α) :
    ((put key x xs).map key).Nodup := by
  rw [map_put]
  split
  · exact once
  · rename_i absent
    rw [List.nodup_append]
    refine ⟨once,List.nodup_singleton _,?_⟩
    rintro k member other new rfl
    exact absent (List.mem_singleton.mp new ▸ member)

theorem nodup_keys_putAll (history : List α) {xs : List α} (once : (xs.map key).Nodup) :
    ((putAll key history xs).map key).Nodup := by
  induction history generalizing xs with
  | nil => exact once
  | cons x history ih => exact ih (nodup_keys_put key once x)

theorem mem_keys_put {x : α} {xs : List α} {k : κ} :
    k ∈ (put key x xs).map key ↔ k = key x ∨ k ∈ xs.map key := by
  rw [map_put]
  split
  · rename_i there
    constructor
    · exact .inr
    · rintro (rfl | member)
      · exact there
      · exact member
  · rw [List.mem_append,List.mem_singleton]
    exact or_comm

theorem mem_keys_putAll {history xs : List α} {k : κ} :
    k ∈ (putAll key history xs).map key ↔ k ∈ history.map key ∨ k ∈ xs.map key := by
  induction history generalizing xs with
  | nil => simp [putAll]
  | cons x history ih =>
    have rest : putAll key (x :: history) xs = putAll key history (put key x xs) := rfl
    rw [rest,ih,mem_keys_put,List.map_cons,List.mem_cons,or_assoc]
    exact or_left_comm

theorem mem_of_mem_putAll {history xs : List α} {x : α} (member : x ∈ putAll key history xs) :
    x ∈ history ∨ x ∈ xs := by
  induction history generalizing xs with
  | nil => exact .inr member
  | cons y history ih =>
    rcases ih member with later | before
    · exact .inl (List.mem_cons_of_mem y later)
    · rcases mem_put before with rfl | old
      · exact .inl List.mem_cons_self
      · exact .inr old

theorem length_putAll (history : List α) :
    (putAll key history []).length = (history.map key).toFinset.card := by
  have once : ((putAll key history []).map key).Nodup :=
    nodup_keys_putAll key history List.nodup_nil
  have keys : ((putAll key history []).map key).toFinset = (history.map key).toFinset := by
    ext k
    simp only [List.mem_toFinset,mem_keys_putAll,List.map_nil,List.not_mem_nil,or_false]
  rw [← keys,List.toFinset_card_of_nodup once,List.length_map]

theorem ordered_keys_putAll (history : List α) :
    ((putAll key history []).map key).Pairwise fun k l =>
      (history.findIdx fun x => key x = k) < history.findIdx fun x => key x = l := by
  induction history using List.reverseRecOn with
  | nil => exact List.Pairwise.nil
  | append_singleton history x ih =>
    have last : putAll key (history ++ [x]) [] = put key x (putAll key history []) := by
      rw [putAll,List.foldl_append]
      rfl
    have known {k : κ} (member : k ∈ (putAll key history []).map key) :
        (history.findIdx fun y => key y = k) < history.length := by
      rw [List.findIdx_lt_length]
      simpa [mem_keys_putAll] using member
    have kept : ((putAll key history []).map key).Pairwise fun k l =>
        ((history ++ [x]).findIdx fun y => key y = k) <
          (history ++ [x]).findIdx fun y => key y = l := by
      apply ih.imp_of_mem
      intro k l first second before
      rw [List.findIdx_append,if_pos (known first),List.findIdx_append,if_pos (known second)]
      exact before
    rw [last,map_put]
    split
    · exact kept
    · rename_i absent
      have new : ¬ (history.findIdx fun y => key y = key x) < history.length := by
        rw [List.findIdx_lt_length]
        simpa [mem_keys_putAll] using absent
      rw [List.pairwise_append]
      refine ⟨kept,List.pairwise_singleton _ _,?_⟩
      intro k member l single
      obtain rfl := List.mem_singleton.mp single
      rw [List.findIdx_append,if_pos (known member),List.findIdx_append,if_neg new]
      exact Nat.lt_of_lt_of_le (known member) (Nat.le_add_left _ _)

/-! Elements that are their own keys: what is put a second time changes nothing. -/

section Plain

variable {β : Type} [DecidableEq α]

theorem put_id (x : α) (xs : List α) : put id x xs = if x ∈ xs then xs else xs ++ [x] := by
  simpa using map_put id x xs

theorem prefix_putAll (history xs : List α) : xs <+: putAll id history xs := by
  induction history generalizing xs with
  | nil => exact List.prefix_rfl
  | cons x history ih =>
    have step : xs <+: put id x xs := by
      rw [put_id]
      split
      · exact List.prefix_rfl
      · exact List.prefix_append xs [x]
    exact step.trans (ih (put id x xs))

theorem findSome?_put (f : α → Option β) (x : α) (xs : List α) :
    (put id x xs).findSome? f = (xs.findSome? f).or (f x) := by
  rw [put_id]
  split
  · rename_i there
    cases found : xs.findSome? f with
    | none => exact (List.findSome?_eq_none_iff.mp found x there).symm
    | some y => rfl
  · rw [List.findSome?_append]
    simp

theorem findSome?_putAll (f : α → Option β) (history xs : List α) :
    (putAll id history xs).findSome? f = (xs.findSome? f).or (history.findSome? f) := by
  induction history generalizing xs with
  | nil => simp [putAll]
  | cons x history ih =>
    have rest : putAll id (x :: history) xs = putAll id history (put id x xs) := rfl
    rw [rest,ih,findSome?_put,Option.or_assoc,List.findSome?_cons]
    cases f x <;> rfl

end Plain

end ObjectMetrics.Order
