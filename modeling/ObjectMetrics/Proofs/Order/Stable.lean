import ObjectMetrics.Order.Sorted

/-! What sorting by key and collecting distinct elements mean, apart from how they are done. Either
meaning determines its result, so a list that is in order already is left as it is. -/
namespace ObjectMetrics.Order

variable {α κ : Type}

/-- The elements of `xs` in non-decreasing order of keys, those of one key in the order of `xs`. -/
structure StablySorted [LE κ] [DecidableEq κ] (key : α → κ) (xs ys : List α) : Prop where
  ordered : ys.Pairwise fun a b => key a ≤ key b
  alike : ∀ k, ys.filter (fun y => key y = k) = xs.filter (fun x => key x = k)

/-- The members of `xs` in strictly increasing order. -/
structure Enumerated [LT κ] (xs ys : List κ) : Prop where
  increasing : Increasing id ys
  members : ∀ x, x ∈ ys ↔ x ∈ xs

section Meaning

variable [LE κ] [DecidableEq κ] {key : α → κ}

omit [LE κ] in
private theorem mem_of_filters_alike {xs ys : List α} {y : α}
    (alike : ∀ k, ys.filter (fun y => key y = k) = xs.filter (fun x => key x = k))
    (member : y ∈ ys) : y ∈ xs := by
  have found : y ∈ ys.filter (fun z => key z = key y) := by simp [member]
  rw [alike] at found
  exact (List.mem_filter.mp found).1

theorem StablySorted.self {xs : List α} (ordered : xs.Pairwise fun a b => key a ≤ key b) :
    StablySorted key xs xs :=
  ⟨ordered,fun _ => rfl⟩

theorem StablySorted.mem_iff {xs ys : List α} (sorted : StablySorted key xs ys) (x : α) :
    x ∈ ys ↔ x ∈ xs :=
  ⟨mem_of_filters_alike sorted.alike,mem_of_filters_alike fun k => (sorted.alike k).symm⟩

variable [Std.IsLinearOrder κ]

/-- Of two sorted lists that agree key by key the first elements have the smallest key there is. -/
private theorem heads_alike {y z : α} {ys zs : List α}
    (first : (y :: ys).Pairwise fun a b => key a ≤ key b)
    (second : (z :: zs).Pairwise fun a b => key a ≤ key b)
    (alike : ∀ k, (y :: ys).filter (fun x => key x = k) = (z :: zs).filter (fun x => key x = k)) :
    y = z := by
  have below {a b : α} {as bs : List α} (ordered : (b :: bs).Pairwise fun a b => key a ≤ key b)
      (same : ∀ k, (a :: as).filter (fun x => key x = k) = (b :: bs).filter (fun x => key x = k)) :
      key b ≤ key a := by
    have member : a ∈ b :: bs := mem_of_filters_alike same List.mem_cons_self
    rcases List.mem_cons.mp member with rfl | later
    · exact Std.le_refl _
    · exact (List.pairwise_cons.mp ordered).1 a later
  have keys : key y = key z :=
    Std.le_antisymm (below first fun k => (alike k).symm) (below second alike)
  have found := alike (key y)
  simp only [List.filter_cons,keys,decide_true,if_true] at found
  exact (List.cons.inj found).1

theorem StablySorted.unique {xs ys zs : List α} (first : StablySorted key xs ys)
    (second : StablySorted key xs zs) : ys = zs := by
  have alike (k : κ) : ys.filter (fun y => key y = k) = zs.filter (fun z => key z = k) :=
    (first.alike k).trans (second.alike k).symm
  have ordered := first.ordered
  have sorted := second.ordered
  clear first second
  induction ys generalizing zs with
  | nil =>
    cases zs with
    | nil => rfl
    | cons z zs => simpa using alike (key z)
  | cons y ys ih =>
    cases zs with
    | nil => simpa using alike (key y)
    | cons z zs =>
      obtain rfl := heads_alike ordered sorted alike
      have tails (k : κ) :
          ys.filter (fun x => key x = k) = zs.filter (fun x => key x = k) := by
        have same := alike k
        by_cases hit : key y = k <;> simpa [List.filter_cons,hit] using same
      rw [ih tails (List.pairwise_cons.mp ordered).2 (List.pairwise_cons.mp sorted).2]

end Meaning

theorem perm_insertStable [LT κ] [DecidableLT κ] (key : α → κ) (x : α) (xs : List α) :
    (insertStable key x xs).Perm (x :: xs) := by
  fun_induction insertStable key x xs with
  | case1 => exact .refl _
  | case2 y ys _ ih => exact (ih.cons y).trans (.swap x y ys)
  | case3 => exact .refl _

theorem mem_insertStable [LT κ] [DecidableLT κ] {key : α → κ} {x y : α} {xs : List α} :
    y ∈ insertStable key x xs ↔ y = x ∨ y ∈ xs :=
  (perm_insertStable key x xs).mem_iff.trans List.mem_cons

theorem perm_sortStable [LT κ] [DecidableLT κ] (key : α → κ) (xs : List α) :
    (sortStable key xs).Perm xs := by
  induction xs with
  | nil => exact .refl _
  | cons x xs ih => exact (perm_insertStable key x _).trans (ih.cons x)

theorem mem_place_iff [LT κ] [DecidableLT κ] [DecidableEq κ] {key : α → κ}
    (inj : Function.Injective key) {x y : α} {xs : List α} :
    y ∈ place key x xs ↔ y = x ∨ y ∈ xs := by
  fun_induction place key x xs with
  | case1 => simp
  | case2 => simp
  | case3 z zs _ same =>
    obtain rfl := inj same
    simp
  | case4 z zs _ _ ih => simp only [List.mem_cons,ih]; exact or_left_comm

variable [LT κ] [LE κ] [DecidableLT κ] [Std.LawfulOrderLT κ] [Std.IsLinearOrder κ]

private theorem ordered_insertStable {key : α → κ} {x : α} {xs : List α}
    (ordered : xs.Pairwise fun a b => key a ≤ key b) :
    (insertStable key x xs).Pairwise fun a b => key a ≤ key b := by
  fun_induction insertStable key x xs with
  | case1 => simp
  | case2 y ys before ih =>
    have parts := List.pairwise_cons.mp ordered
    refine List.pairwise_cons.mpr ⟨fun z member => ?_,ih parts.2⟩
    rcases mem_insertStable.mp member with rfl | later
    · exact Std.le_of_lt before
    · exact parts.1 z later
  | case3 y ys notBefore =>
    have parts := List.pairwise_cons.mp ordered
    have least : key x ≤ key y := Std.not_lt.mp notBefore
    refine List.pairwise_cons.mpr ⟨fun z member => ?_,ordered⟩
    rcases List.mem_cons.mp member with rfl | later
    · exact least
    · exact Std.le_trans least (parts.1 z later)

variable [DecidableEq κ]

omit [Std.IsLinearOrder κ] in
private theorem filter_insertStable {key : α → κ} {x : α} {xs : List α} (k : κ) :
    (insertStable key x xs).filter (fun y => key y = k) =
      (x :: xs).filter (fun y => key y = k) := by
  fun_induction insertStable key x xs with
  | case1 => rfl
  | case2 y ys before ih =>
    -- An element that is passed has a smaller key, so it is never of the same key as `x`.
    have apart : key y ≠ key x := fun same => Std.lt_irrefl (same ▸ before)
    rw [List.filter_cons,ih]
    by_cases hit : key x = k
    · have miss : key y ≠ k := fun same => apart (same.trans hit.symm)
      simp [hit,miss]
    · simp [List.filter_cons,hit]
  | case3 => rfl

theorem stablySorted_sortStable (key : α → κ) (xs : List α) :
    StablySorted key xs (sortStable key xs) := by
  induction xs with
  | nil => exact ⟨List.Pairwise.nil,fun _ => rfl⟩
  | cons x xs ih =>
    refine ⟨ordered_insertStable ih.ordered,fun k => ?_⟩
    rw [sortStable,filter_insertStable,List.filter_cons,List.filter_cons,ih.alike]

theorem stablySorted_iff {key : α → κ} {xs ys : List α} :
    StablySorted key xs ys ↔ ys = sortStable key xs := by
  constructor
  · intro sorted
    exact sorted.unique (stablySorted_sortStable key xs)
  · rintro rfl
    exact stablySorted_sortStable key xs

theorem sortStable_of_ordered {key : α → κ} {xs : List α}
    (ordered : xs.Pairwise fun a b => key a ≤ key b) : sortStable key xs = xs :=
  (stablySorted_iff.mp (.self ordered)).symm

/-- Where an element is its own key, the order in which equal ones are given is lost. -/
theorem sortStable_id_of_perm {xs ys : List κ} (perm : xs.Perm ys) :
    sortStable id xs = sortStable id ys := by
  obtain ⟨ordered,alike⟩ := stablySorted_sortStable id ys
  refine (stablySorted_sortStable id xs).unique ⟨ordered,fun k => (alike k).trans ?_⟩
  simp only [id_eq,List.filter_eq,perm.count_eq]

theorem increasing_distinct (key : α → κ) (xs : List α) : Increasing key (distinct key xs) := by
  have placed (xs : List α) {ys : List α} (increasing : Increasing key ys) :
      Increasing key (xs.foldl (fun placed x => place key x placed) ys) := by
    induction xs generalizing ys with
    | nil => exact increasing
    | cons x xs ih => exact ih (increasing_place increasing)
  exact placed xs (increasing_nil key)

omit [LE κ] [Std.LawfulOrderLT κ] [Std.IsLinearOrder κ] in
theorem mem_distinct_iff {key : α → κ} (inj : Function.Injective key) {x : α} {xs : List α} :
    x ∈ distinct key xs ↔ x ∈ xs := by
  have placed (xs ys : List α) : x ∈ xs.foldl (fun placed x => place key x placed) ys ↔
      x ∈ xs ∨ x ∈ ys := by
    induction xs generalizing ys with
    | nil => simp
    | cons y xs ih =>
      rw [List.foldl_cons,ih,mem_place_iff inj,List.mem_cons,or_assoc]
      exact or_left_comm
  rw [distinct,placed]
  simp

theorem enumerated_distinct (xs : List κ) : Enumerated xs (distinct id xs) :=
  ⟨increasing_distinct id xs,fun _ => mem_distinct_iff Function.injective_id⟩

omit [DecidableLT κ] [DecidableEq κ] in
theorem Enumerated.unique {xs ys zs : List κ} (first : Enumerated xs ys)
    (second : Enumerated xs zs) : ys = zs := by
  have below {as : List κ} (increasing : Increasing id as) : as.Pairwise fun a b => a ≤ b :=
    increasing.imp Std.le_of_lt
  have once {as : List κ} (increasing : Increasing id as) : as.Nodup := by
    apply increasing.imp
    intro a b less same
    exact Std.lt_irrefl (same ▸ less)
  have perm : ys.Perm zs := by
    rw [List.perm_ext_iff_of_nodup (once first.increasing) (once second.increasing)]
    intro x
    rw [first.members,second.members]
  exact perm.eq_of_pairwise (fun _ _ _ _ => Std.le_antisymm) (below first.increasing)
    (below second.increasing)

theorem enumerated_iff {xs ys : List κ} : Enumerated xs ys ↔ ys = distinct id xs := by
  constructor
  · intro enumerated
    exact enumerated.unique (enumerated_distinct xs)
  · rintro rfl
    exact enumerated_distinct xs

end ObjectMetrics.Order
