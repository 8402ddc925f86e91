import ObjectMetrics.Proofs.Selector.Reading

/-! Selector texts joined with a comma. The tokens of the parts are joined, the requirements of both are
asked for, and the order of the parts shows only in the order of requirements on one key. -/

namespace ObjectMetrics.Order

variable {α κ : Type} [LE κ] [DecidableEq κ] {key : α → κ} {xs ys zs : List α}

/-- Sorting parts first makes no difference to the sorted whole. -/
theorem StablySorted.append_iff {as bs : List α} (left : StablySorted key as xs)
    (right : StablySorted key bs ys) :
    StablySorted key (as ++ bs) zs ↔ StablySorted key (xs ++ ys) zs := by
  have parts (k : κ) : (as ++ bs).filter (fun x => key x = k) =
      (xs ++ ys).filter (fun x => key x = k) := by
    rw [List.filter_append,List.filter_append,left.alike,right.alike]
  constructor
  · rintro ⟨ordered,alike⟩
    exact ⟨ordered,fun k => (alike k).trans (parts k)⟩
  · rintro ⟨ordered,alike⟩
    exact ⟨ordered,fun k => (alike k).trans (parts k).symm⟩

/-- Parts that have no key in common may change places. -/
theorem StablySorted.append_comm (apart : ∀ x ∈ xs, ∀ y ∈ ys, key x ≠ key y)
    (sorted : StablySorted key (xs ++ ys) zs) : StablySorted key (ys ++ xs) zs := by
  refine ⟨sorted.ordered,fun k => (sorted.alike k).trans ?_⟩
  rw [List.filter_append,List.filter_append]
  by_cases found : ∃ x ∈ xs, key x = k
  · obtain ⟨x,member,rfl⟩ := found
    have others : ys.filter (fun y => key y = key x) = [] := by
      simp only [List.filter_eq_nil_iff,decide_eq_true_eq]
      exact fun y other same => apart x member y other same.symm
    rw [others,List.append_nil,List.nil_append]
  · have others : xs.filter (fun x => key x = k) = [] := by
      simp only [List.filter_eq_nil_iff,decide_eq_true_eq]
      exact fun x member same => found ⟨x,member,same⟩
    rw [others,List.append_nil,List.nil_append]

end ObjectMetrics.Order

namespace ObjectMetrics.Label

theorem Token.takes_comma (t : Token) : t.takes ',' = false := by
  cases t with
  | word w => exact (by decide : isWordChar ',' = false)
  | bang | equals => decide
  | _ => rfl

theorem scan_comma (cs ds : List Char) : scan (cs ++ ',' :: ds) = scan cs ++ .comma :: scan ds := by
  apply scan_eq_of_spelling
  apply Spelling.append _ (spelling_scan cs)
  · exact .token .comma trivial (fun _ _ => rfl) (spelling_scan ds)
  · intro t _ d member
    obtain rfl : ',' = d := Option.some.inj member
    exact t.takes_comma

theorem RequirementsPhrase.append {ts us : List Token} {rs ss : List Requirement}
    (front : RequirementsPhrase ts rs) (back : RequirementsPhrase us ss) :
    RequirementsPhrase (ts ++ .comma :: us) (rs ++ ss) := by
  induction front with
  | one first => exact .more first back
  | more first _ ih =>
    rw [List.append_assoc,List.cons_append]
    exact .more first ih

theorem SelectorPhrase.terms_of_ne_nil {ts : List Token} {rs : List Requirement}
    (phrase : SelectorPhrase ts rs) (nonempty : rs ≠ []) : RequirementsPhrase ts rs := by
  cases phrase with
  | nothing => contradiction
  | terms requirements => exact requirements

theorem requirementsOf_joined {a b : String} {rs ss : List Requirement}
    (left : requirementsOf a = .ok rs) (right : requirementsOf b = .ok ss) (leftNonempty : rs ≠ [])
    (rightNonempty : ss ≠ []) : requirementsOf (a ++ "," ++ b) = .ok (rs ++ ss) := by
  have front := (requirementsOf_eq_ok.mp left).terms_of_ne_nil leftNonempty
  have back := (requirementsOf_eq_ok.mp right).terms_of_ne_nil rightNonempty
  have joined : (a ++ "," ++ b).toList = a.toList ++ ',' :: b.toList := by simp
  rw [requirementsOf_eq_ok,joined,scan_comma]
  exact .terms (front.append back)

end ObjectMetrics.Label

namespace ObjectMetrics.Selector
open Label

theorem isMetBy_of_stablySorted {rs : List Requirement} {u : Selector}
    (sorted : Order.StablySorted Requirement.key rs u.requirements) (labels : LabelSet) :
    u.isMetBy labels = isMetBy ⟨rs⟩ labels := by
  rw [Bool.eq_iff_iff,isMetBy,isMetBy,List.all_eq_true,List.all_eq_true]
  simp only [sorted.mem_iff]

theorem ne_nil_of_asks {s : Selector} {rs : List Requirement}
    (sorted : s.requirements = Order.sortStable Requirement.key rs) (asks : s.requirements ≠ []) :
    rs ≠ [] := by
  rintro rfl
  exact asks sorted

theorem parse_comma {a b : String} {s t : Selector} (left : parse a = .ok s)
    (right : parse b = .ok t) (leftAsks : s.requirements ≠ [])
    (rightAsks : t.requirements ≠ []) :
    ∃ u, parse (a ++ "," ++ b) = .ok u ∧
      Order.StablySorted Requirement.key (s.requirements ++ t.requirements) u.requirements := by
  obtain ⟨rs,first,ordered⟩ := parse_eq_ok.mp left
  obtain ⟨ss,second,arranged⟩ := parse_eq_ok.mp right
  have front := Order.stablySorted_iff.mpr ordered
  have back := Order.stablySorted_iff.mpr arranged
  have read := requirementsOf_joined first second (ne_nil_of_asks ordered leftAsks)
    (ne_nil_of_asks arranged rightAsks)
  refine ⟨⟨Order.sortStable Requirement.key (rs ++ ss)⟩,parse_eq_ok.mpr ⟨_,read,rfl⟩,?_⟩
  exact (front.append_iff back).mp (Order.stablySorted_sortStable _ _)

/-- Joining the texts of selectors with a comma is conjunction. The requirements of both stand in the
order of keys, those on one key in the order of the texts; the texts may change places unless they
ask something of the same key, and even then the same label sets are met. -/
theorem parse_joined {a b : String} {s t : Selector} (left : parse a = .ok s)
    (right : parse b = .ok t) (leftAsks : s.requirements ≠ [])
    (rightAsks : t.requirements ≠ []) :
    ∃ u v, parse (a ++ "," ++ b) = .ok u ∧ parse (b ++ "," ++ a) = .ok v ∧
      Order.StablySorted Requirement.key (s.requirements ++ t.requirements) u.requirements ∧
      (∀ labels, u.isMetBy labels = (s.isMetBy labels && t.isMetBy labels)) ∧
      (∀ labels, u.isMetBy labels = v.isMetBy labels) ∧
      ((∀ r ∈ s.requirements, ∀ q ∈ t.requirements, r.key ≠ q.key) → u = v ∧ u.text = v.text) := by
  obtain ⟨u,forward,sorted⟩ := parse_comma left right leftAsks rightAsks
  obtain ⟨v,backward,arranged⟩ := parse_comma right left rightAsks leftAsks
  have both (labels : LabelSet) : u.isMetBy labels = (s.isMetBy labels && t.isMetBy labels) := by
    rw [isMetBy_of_stablySorted sorted,isMetBy_append]
  have turned (labels : LabelSet) : v.isMetBy labels = (t.isMetBy labels && s.isMetBy labels) := by
    rw [isMetBy_of_stablySorted arranged,isMetBy_append]
  refine ⟨u,v,forward,backward,sorted,both,fun labels => ?_,fun apart => ?_⟩
  · rw [both,turned,Bool.and_comm]
  · have same : u.requirements = v.requirements := (sorted.append_comm apart).unique arranged
    obtain rfl : u = v := congrArg mk same
    exact ⟨rfl,rfl⟩

theorem parse_joined_empty_value :
    parse "c,b=" = .ok ⟨[⟨"b",.equals ""⟩,⟨"c",.present⟩]⟩ ∧
    parse " b notin (x,), !a" = .ok ⟨[⟨"a",.absent⟩,⟨"b",.noneOf ["","x"]⟩]⟩ ∧
    ∃ u v, parse ("c,b=" ++ "," ++ " b notin (x,), !a") = .ok u ∧
      parse (" b notin (x,), !a" ++ "," ++ "c,b=") = .ok v ∧
      Order.StablySorted Requirement.key [⟨"b",.equals ""⟩,⟨"c",.present⟩,⟨"a",.absent⟩,
        ⟨"b",.noneOf ["","x"]⟩] u.requirements ∧
      (∀ labels, u.isMetBy labels = (isMetBy ⟨[⟨"b",.equals ""⟩,⟨"c",.present⟩]⟩ labels &&
        isMetBy ⟨[⟨"a",.absent⟩,⟨"b",.noneOf ["","x"]⟩]⟩ labels)) ∧
      (∀ labels, u.isMetBy labels = v.isMetBy labels) := by
  have left : parse "c,b=" = .ok ⟨[⟨"b",.equals ""⟩,⟨"c",.present⟩]⟩ := by decide +kernel
  have right : parse " b notin (x,), !a" = .ok ⟨[⟨"a",.absent⟩,⟨"b",.noneOf ["","x"]⟩]⟩ := by
    decide +kernel
  obtain ⟨u,v,forward,backward,sorted,both,same,_⟩ := parse_joined left right (by simp) (by simp)
  exact ⟨left,right,u,v,forward,backward,sorted,both,same⟩

end ObjectMetrics.Selector
