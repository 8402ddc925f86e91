import ObjectMetrics.Text.Split

/-! Stripping both ends of a text. What is stripped is nothing but the characters around a middle that
begins and ends with others. -/
namespace ObjectMetrics.Text

variable {p : Char → Bool}

theorem takeWhile_append_of_all {front middle : List Char} (before : ∀ c ∈ front, p c)
    (starts : ∀ c ∈ middle.head?, ¬ p c) : (front ++ middle).takeWhile p = front := by
  rw [List.takeWhile_append_of_pos before]
  cases middle with
  | nil => exact List.append_nil front
  | cons c middle => rw [List.takeWhile_cons_of_neg (starts c rfl),List.append_nil]

theorem dropWhile_append_of_all {front middle : List Char} (before : ∀ c ∈ front, p c)
    (starts : ∀ c ∈ middle.head?, ¬ p c) : (front ++ middle).dropWhile p = middle := by
  rw [List.dropWhile_append_of_pos before]
  cases middle with
  | nil => rfl
  | cons c middle => exact List.dropWhile_cons_of_neg (starts c rfl)

theorem stripBoth_padded {front middle back : List Char} (before : ∀ c ∈ front, p c)
    (behind : ∀ c ∈ back, p c) (starts : ∀ c ∈ middle.head?, ¬ p c)
    (ends : ∀ c ∈ middle.getLast?, ¬ p c) : stripBoth p (front ++ middle ++ back) = middle := by
  have reversed : ∀ c ∈ back.reverse, p c := fun c member => behind c (List.mem_reverse.mp member)
  cases middle with
  | nil =>
    have dropped : (back ++ []).dropWhile p = [] := List.dropWhile_append_of_pos behind
    rw [List.append_nil] at dropped
    rw [stripBoth,List.append_nil,List.dropWhile_append_of_pos before,dropped]
    rfl
  | cons c middle =>
    have dropped : (front ++ c :: middle ++ back).dropWhile p = c :: middle ++ back := by
      rw [List.append_assoc]
      exact dropWhile_append_of_all before starts
    rw [stripBoth,dropped,List.reverse_append,
      dropWhile_append_of_all reversed (by simpa only [List.head?_reverse] using ends),
      List.reverse_reverse]

theorem exists_padding (p : Char → Bool) (cs : List Char) : ∃ front back,
    cs = front ++ stripBoth p cs ++ back ∧ (∀ c ∈ front, p c) ∧ ∀ c ∈ back, p c := by
  refine ⟨cs.takeWhile p,((cs.dropWhile p).reverse.takeWhile p).reverse,?_,?_,?_⟩
  · rw [stripBoth,List.append_assoc,← List.reverse_append,List.takeWhile_append_dropWhile,
      List.reverse_reverse,List.takeWhile_append_dropWhile]
  · intro c member
    exact List.all_eq_true.mp List.all_takeWhile c member
  · intro c member
    exact List.all_eq_true.mp List.all_takeWhile c (List.mem_reverse.mp member)

end ObjectMetrics.Text
