/-!
Lists with one element per key, in the order in which the keys were first added. Putting an element
replaces the one of its key where that stands.
-/
namespace ObjectMetrics.Order

variable {α κ : Type} [DecidableEq κ]

def put (key : α → κ) (x : α) (xs : List α) : List α :=
  if xs.any fun y => key y = key x then xs.map fun y => if key y = key x then x else y
  else xs ++ [x]

theorem mem_put {key : α → κ} {x y : α} {xs : List α} (h : y ∈ put key x xs) : y = x ∨ y ∈ xs := by
  unfold put at h
  split at h
  · obtain ⟨z, member, rfl⟩ := List.mem_map.1 h
    split
    · exact .inl rfl
    · exact .inr member
  · simpa [or_comm] using h

private theorem find?_exchange (key : α → κ) (x : α) (xs : List α) (k : κ) :
    (xs.map fun y => if key y = key x then x else y).find? (fun y => key y = k) =
      if key x = k ∧ (xs.any fun y => key y = key x) then some x
      else xs.find? (fun y => key y = k) := by
  induction xs with
  | nil => simp
  | cons y ys ih =>
    rw [List.map_cons, List.find?_cons, List.find?_cons, List.any_cons]
    by_cases same : key y = key x
    · by_cases hit : key x = k
      · simp [same, hit]
      · simp only [same, if_true, hit, decide_false, false_and, if_false] at ih ⊢
        exact ih
    · rw [if_neg same]
      by_cases first : key y = k
      · have miss : key x ≠ k := fun eq => same (first.trans eq.symm)
        simp only [first, decide_true, miss, false_and, if_false]
      · simp only [first, same, decide_false, Bool.false_or]
        exact ih

theorem find?_put (key : α → κ) (x : α) (xs : List α) (k : κ) :
    (put key x xs).find? (fun y => key y = k) =
      if key x = k then some x else xs.find? (fun y => key y = k) := by
  unfold put
  split
  · rename_i known
    rw [find?_exchange]
    simp [known]
  · rename_i unknown
    rw [List.find?_append]
    by_cases hit : key x = k
    · have missing : xs.find? (fun y => key y = k) = none := by
        simp only [List.find?_eq_none]
        intro y member eq
        exact unknown (List.any_eq_true.2 ⟨y, member, by simpa [hit] using eq⟩)
      simp [hit, missing]
    · simp [hit]

theorem map_put (key : α → κ) (x : α) (xs : List α) :
    (put key x xs).map key =
      if key x ∈ xs.map key then xs.map key else xs.map key ++ [key x] := by
  have known : (xs.any fun y => key y = key x) = true ↔ key x ∈ xs.map key := by simp
  unfold put
  split
  · rename_i there
    rw [if_pos (known.1 there), List.map_map]
    refine List.map_congr_left fun y _ => ?_
    by_cases same : key y = key x <;> simp [same]
  · rename_i absent
    rw [if_neg fun member => absent (known.2 member), List.map_append]
    rfl

end ObjectMetrics.Order
