import ObjectMetrics.Text.Split

/-! Cutting text that was joined. Pieces without the separator come back as they were, and a text is
cut in two at the first separator only. -/
namespace ObjectMetrics.Text

theorem mem_splitAll (sep : Char) {c : Char} {cs : List Char} (member : c ∈ cs) :
    c = sep ∨ ∃ piece ∈ splitAll sep cs, c ∈ piece := by
  induction cs with
  | nil => simp at member
  | cons d cs ih =>
    unfold splitAll
    by_cases cut : d = sep
    · rw [if_pos cut]
      rcases List.mem_cons.mp member with rfl | later
      · exact .inl cut
      · rcases ih later with same | ⟨piece,found,inside⟩
        · exact .inl same
        · exact .inr ⟨piece,.tail _ found,inside⟩
    · rw [if_neg cut]
      cases pieces : splitAll sep cs with
      | nil => exact absurd pieces (splitAll_ne_nil sep cs)
      | cons first others =>
        rw [pieces] at ih
        rcases List.mem_cons.mp member with rfl | later
        · exact .inr ⟨_,List.mem_cons_self,List.mem_cons_self⟩
        · rcases ih later with same | ⟨piece,found,inside⟩
          · exact .inl same
          · rcases List.mem_cons.mp found with rfl | other
            · exact .inr ⟨_,List.mem_cons_self,.tail _ inside⟩
            · exact .inr ⟨piece,.tail _ other,inside⟩

variable {sep : Char}

theorem splitAll_of_not_mem {cs : List Char} (absent : sep ∉ cs) : splitAll sep cs = [cs] := by
  induction cs with
  | nil => rfl
  | cons c cs ih =>
    have other := List.ne_of_not_mem_cons absent
    rw [splitAll,if_neg other.symm,ih (List.not_mem_of_not_mem_cons absent)]

theorem splitAll_append_cons (before after : List Char) :
    splitAll sep (before ++ sep :: after) = splitAll sep before ++ splitAll sep after := by
  induction before with
  | nil => simp [splitAll]
  | cons c before ih =>
    rw [List.cons_append,splitAll,splitAll,ih]
    split
    · rfl
    · cases pieces : splitAll sep before with
      | nil => exact absurd pieces (splitAll_ne_nil sep before)
      | cons first others => rfl

theorem splitAll_append {piece : List Char} (absent : sep ∉ piece) (rest : List Char) :
    splitAll sep (piece ++ sep :: rest) = piece :: splitAll sep rest := by
  rw [splitAll_append_cons,splitAll_of_not_mem absent]
  rfl

theorem splitAll_intercalate {pieces : List (List Char)} (nonempty : pieces ≠ [])
    (absent : ∀ piece ∈ pieces, sep ∉ piece) :
    splitAll sep ([sep].intercalate pieces) = pieces := by
  induction pieces with
  | nil => contradiction
  | cons first pieces ih =>
    obtain ⟨free,later⟩ := List.forall_mem_cons.mp absent
    cases pieces with
    | nil =>
      rw [List.intercalate_singleton]
      exact splitAll_of_not_mem free
    | cons second pieces =>
      rw [List.intercalate_cons_cons,List.append_assoc,List.singleton_append,splitAll_append free,
        ih (by simp) later]

theorem intercalate_splitAll (cs : List Char) : [sep].intercalate (splitAll sep cs) = cs := by
  induction cs with
  | nil => rfl
  | cons c cs ih =>
    rw [splitAll]
    cases pieces : splitAll sep cs with
    | nil => exact absurd pieces (splitAll_ne_nil sep cs)
    | cons first others =>
      rw [pieces] at ih
      by_cases cut : c = sep
      · rw [if_pos cut,List.intercalate_cons_cons,ih,cut]
        rfl
      · rw [if_neg cut]
        cases others with
        | nil =>
          rw [List.intercalate_singleton] at ih ⊢
          rw [ih]
        | cons second others =>
          rw [List.intercalate_cons_cons] at ih ⊢
          rw [← ih]
          rfl

theorem not_mem_of_mem_splitAll {cs piece : List Char} (member : piece ∈ splitAll sep cs) :
    sep ∉ piece := by
  induction cs generalizing piece with
  | nil =>
    obtain rfl : piece = [] := by simpa [splitAll] using member
    exact List.not_mem_nil
  | cons c cs ih =>
    rw [splitAll] at member
    cases pieces : splitAll sep cs with
    | nil => exact absurd pieces (splitAll_ne_nil sep cs)
    | cons first others =>
      rw [pieces] at ih member
      by_cases cut : c = sep
      · rw [if_pos cut] at member
        rcases List.mem_cons.mp member with rfl | later
        · exact List.not_mem_nil
        · exact ih later
      · rw [if_neg cut] at member
        rcases List.mem_cons.mp member with rfl | later
        · exact List.not_mem_cons_of_ne_of_not_mem (Ne.symm cut) (ih List.mem_cons_self)
        · exact ih (.tail _ later)

theorem splitFirst?_append {piece : List Char} (absent : sep ∉ piece) (rest : List Char) :
    splitFirst? sep (piece ++ sep :: rest) = some (piece,rest) := by
  induction piece with
  | nil => simp [splitFirst?]
  | cons c piece ih =>
    have other := List.ne_of_not_mem_cons absent
    rw [List.cons_append,splitFirst?,if_neg other.symm,ih (List.not_mem_of_not_mem_cons absent)]
    rfl

theorem cut?_eq_some_iff {s before after : String} :
    cut? sep s = some (before,after) ↔
      s.toList = before.toList ++ sep :: after.toList ∧ sep ∉ before.toList := by
  simp only [cut?,Option.map_eq_some_iff,Prod.mk.injEq,Prod.exists]
  constructor
  · rintro ⟨front,back,parts,rfl,rfl⟩
    simpa using splitFirst?_eq_some parts
  · rintro ⟨joined,absent⟩
    rw [joined,splitFirst?_append absent]
    exact ⟨_,_,rfl,String.ofList_toList,String.ofList_toList⟩

theorem cut?_eq_none_iff {s : String} : cut? sep s = none ↔ sep ∉ s.toList := by
  rw [cut?,Option.map_eq_none_iff,splitFirst?_eq_none]

end ObjectMetrics.Text
