/-!
Lists kept in increasing order of a key. `place` keeps one element per key, the one placed last;
`sortStable` keeps all elements and leaves those of equal key in their order.
-/
namespace ObjectMetrics.Order

variable {α κ : Type} [LT κ] [DecidableLT κ] [DecidableEq κ]

/-- Put an element at its key's place, in exchange for one of the same key. -/
def place (key : α → κ) (x : α) : List α → List α
  | [] => [x]
  | y :: ys =>
    if key x < key y then x :: y :: ys
    else if key x = key y then x :: ys
    else y :: place key x ys

/-- The distinct elements of a list in increasing order; of two with one key the later stays. -/
def distinct (key : α → κ) (xs : List α) : List α :=
  xs.foldl (fun placed x => place key x placed) []

/-- Put an element before the first one whose key is not smaller. -/
def insertStable (key : α → κ) (x : α) : List α → List α
  | [] => [x]
  | y :: ys => if key y < key x then y :: insertStable key x ys else x :: y :: ys

def sortStable (key : α → κ) : List α → List α
  | [] => []
  | x :: xs => insertStable key x (sortStable key xs)

abbrev Increasing (key : α → κ) (xs : List α) : Prop := xs.Pairwise fun a b => key a < key b

omit [DecidableLT κ] [DecidableEq κ] in
theorem increasing_nil (key : α → κ) : Increasing key ([] : List α) := List.Pairwise.nil

theorem mem_place {key : α → κ} {x y : α} {xs : List α} (h : y ∈ place key x xs) :
    y = x ∨ y ∈ xs := by
  fun_induction place key x xs with
  | case1 => simpa using h
  | case2 => simpa using h
  | case3 => simp only [List.mem_cons] at h ⊢; exact h.elim .inl fun h => .inr (.inr h)
  | case4 _ _ _ _ ih =>
    simp only [List.mem_cons] at h ⊢
    rcases h with rfl | h
    · exact .inr (.inl rfl)
    · exact (ih h).elim .inl fun h => .inr (.inr h)

theorem increasing_place [LE κ] [Std.LawfulOrderLT κ] [Std.IsLinearOrder κ] {key : α → κ} {x : α}
    {xs : List α} (h : Increasing key xs) : Increasing key (place key x xs) := by
  fun_induction place key x xs with
  | case1 => simp
  | case2 y ys below =>
    have tail := List.pairwise_cons.1 h
    refine List.pairwise_cons.2 ⟨fun z hz => ?_, h⟩
    rcases List.mem_cons.1 hz with rfl | hz
    · exact below
    · exact Std.lt_trans below (tail.1 z hz)
  | case3 y ys _ same =>
    have tail := List.pairwise_cons.1 h
    exact List.pairwise_cons.2 ⟨fun z hz => same ▸ tail.1 z hz, tail.2⟩
  | case4 y ys notBelow differ ih =>
    have tail := List.pairwise_cons.1 h
    refine List.pairwise_cons.2 ⟨fun z hz => ?_, ih tail.2⟩
    rcases mem_place hz with rfl | hz
    · rcases Std.le_iff_lt_or_eq.1 (Std.not_lt.1 notBelow) with lt | eq
      · exact lt
      · exact absurd eq.symm differ
    · exact tail.1 z hz

theorem find?_place (key : α → κ) (x : α) (xs : List α) (k : κ) :
    (place key x xs).find? (fun y => key y = k) =
      if key x = k then some x else xs.find? (fun y => key y = k) := by
  fun_induction place key x xs with
  | case1 => by_cases same : key x = k <;> simp [same]
  | case2 y ys => by_cases same : key x = k <;> simp [same]
  | case3 y ys _ same =>
    by_cases hit : key x = k
    · simp [hit]
    · have miss : key y ≠ k := fun eq => hit (same.trans eq)
      simp [hit, miss]
  | case4 y ys _ differ ih =>
    by_cases first : key y = k
    · have miss : key x ≠ k := fun eq => differ (eq.trans first.symm)
      simp [first, miss]
    · simp [first, ih]

end ObjectMetrics.Order
