import ObjectMetrics.Fault
import ObjectMetrics.Proofs.Selector.Grammar
import ObjectMetrics.Proofs.Selector.Spelling

/-! Reading selectors by the grammar. The readers find the meaning of every phrase and refuse the
token lists that are none, whatever follows a phrase that is complete. -/
namespace ObjectMetrics.Label

theorem checked_eq_ok {check : String → Except NameFlaw Unit} {w v : String} :
    checked check w = .ok v ↔ check w = .ok () ∧ w = v := by
  unfold checked
  cases check w <;> simp

theorem checkValue_of_checkName {w : String} (accepted : checkName w = .ok ()) :
    checkValue w = .ok () := by
  unfold checkValue
  split
  · rfl
  · exact accepted

private theorem valuePhrase_of_checked {w v : String} (word : IsWord w)
    (accepted : checked checkValue w = .ok v) : ValuePhrase [.word w] v := by
  obtain ⟨valid,rfl⟩ := checked_eq_ok.mp accepted
  rw [checkValue,if_neg word.1] at valid
  exact .name w valid

def EndsValue (ts : List Token) : Prop := ∀ t ∈ ts.head?, t = .comma ∨ t = .closeParen

def EndsRequirement (ts : List Token) : Prop := ∀ t ∈ ts.head?, t = .comma

theorem endsRequirement_nil : EndsRequirement [] := by simp [EndsRequirement]

theorem endsRequirement_comma (ts : List Token) : EndsRequirement (.comma :: ts) := by
  simp [EndsRequirement]

theorem readKey_eq_ok {ts rest : List Token} {key : String} :
    readKey ts = .ok (key,rest) ↔ ts = .word key :: rest ∧ checkKey key = .ok () := by
  unfold readKey
  split
  · simp only [map_eq_ok,checked_eq_ok,Prod.mk.injEq,List.cons.injEq,Token.word.injEq]
    constructor
    · rintro ⟨_,⟨accepted,rfl⟩,rfl,rfl⟩
      exact ⟨⟨rfl,rfl⟩,accepted⟩
    · rintro ⟨⟨rfl,rfl⟩,accepted⟩
      exact ⟨_,⟨accepted,rfl⟩,rfl,rfl⟩
  · rename_i other
    simp only [reduceCtorEq,false_iff,not_and]
    intro same
    exact absurd (List.cons.inj same).1 (other key)
  · simp

theorem readKey_word {key : String} (accepted : checkKey key = .ok ()) (rest : List Token) :
    readKey (.word key :: rest) = .ok (key,rest) :=
  readKey_eq_ok.mpr ⟨rfl,accepted⟩

section Sound

variable {ts rest : List Token}

theorem valuePhrase_of_readValue {v : String} (proper : ∀ t ∈ ts, t.IsProper)
    (read : readValue ts = .ok (v,rest)) :
    ∃ front, ts = front ++ rest ∧ ValuePhrase front v := by
  unfold readValue at read
  split at read <;>
    simp only [map_eq_ok,Except.ok.injEq,Prod.mk.injEq,reduceCtorEq] at read
  case h_1 w more =>
    obtain ⟨_,accepted,rfl,rfl⟩ := read
    exact ⟨[.word w],rfl,valuePhrase_of_checked (proper (.word w) List.mem_cons_self) accepted⟩
  all_goals
    obtain ⟨rfl,rfl⟩ := read
    exact ⟨[],rfl,.nothing⟩

theorem membersPhrase_of_readMembers {vs : List String} (proper : ∀ t ∈ ts, t.IsProper)
    (read : readMembers ts = .ok (vs,rest)) :
    ∃ front, ts = front ++ .closeParen :: rest ∧ MembersPhrase front vs := by
  fun_induction readMembers ts generalizing vs <;>
    simp only [map_eq_ok,Except.ok.injEq,Prod.mk.injEq,Prod.exists,reduceCtorEq] at read
  case case2 ts ih =>
    obtain ⟨us,_,more,rfl,rfl⟩ := read
    obtain ⟨front,rfl,members⟩ := ih (fun t member => proper t (.tail _ member)) more
    exact ⟨.comma :: front,rfl,.more .nothing members⟩
  case case3 ts =>
    obtain ⟨rfl,rfl⟩ := read
    exact ⟨[],rfl,.one .nothing⟩
  case case5 w v more accepted ih =>
    obtain ⟨us,_,found,rfl,rfl⟩ := read
    have value := valuePhrase_of_checked (proper (.word w) List.mem_cons_self) accepted
    obtain ⟨front,rfl,members⟩ := ih (fun t member => proper t (.tail _ (.tail _ member))) found
    exact ⟨.word w :: .comma :: front,rfl,.more value members⟩
  case case6 w v more accepted =>
    obtain ⟨rfl,rfl⟩ := read
    have value := valuePhrase_of_checked (proper (.word w) List.mem_cons_self) accepted
    exact ⟨[.word w],rfl,.one value⟩

theorem setPhrase_of_readSet {set : List String} (proper : ∀ t ∈ ts, t.IsProper)
    (read : readSet ts = .ok (set,rest)) :
    ∃ front, ts = .openParen :: front ++ .closeParen :: rest ∧ SetPhrase front set := by
  unfold readSet at read
  split at read
  · rename_i inner
    split at read
    · simp at read
    · rename_i vs tail found
      split at read <;> simp only [Except.ok.injEq,Prod.mk.injEq,reduceCtorEq] at read
      rename_i some
      obtain ⟨rfl,rfl⟩ := read
      obtain ⟨front,rfl,members⟩ :=
        membersPhrase_of_readMembers (fun t member => proper t (.tail _ member)) found
      refine ⟨front,rfl,vs,members,?_,Order.enumerated_distinct vs⟩
      simpa using some
  · simp at read

theorem bound_of_readBound {w : String} (proper : ∀ t ∈ ts, t.IsProper)
    (read : readBound ts = .ok (w,rest)) : ts = .word w :: rest ∧ IsBound w := by
  unfold readBound at read
  split at read
  · simp at read
  · rename_i v tail found
    split at read <;> simp only [Except.ok.injEq,Prod.mk.injEq,reduceCtorEq] at read
    rename_i integer
    obtain ⟨rfl,rfl⟩ := read
    obtain ⟨n,denoted⟩ := Option.isSome_iff_exists.mp integer
    obtain ⟨front,rfl,value⟩ := valuePhrase_of_readValue proper found
    cases value with
    | nothing =>
      have empty : Number.readInt64? "" = none := by decide
      rw [empty] at denoted
      contradiction
    | name w accepted => exact ⟨rfl,accepted,n,Number.readInt64?_eq_some_iff.mp denoted⟩

theorem conditionPhrase_of_readCondition {key : String} {c : Condition}
    (proper : ∀ t ∈ ts, t.IsProper) (read : readCondition key ts = .ok (c,rest)) :
    ∃ front, ts = front ++ rest ∧ ConditionPhrase front c := by
  unfold readCondition at read
  split at read
  case h_8 w more =>
    have inner : ∀ t ∈ more, t.IsProper := fun t member => proper t (.tail _ member)
    split at read
    · rename_i sign
      obtain ⟨⟨set,_⟩,found,same⟩ := map_eq_ok.mp read
      obtain ⟨rfl,rfl⟩ := Prod.mk.inj same
      obtain ⟨front,rfl,members⟩ := setPhrase_of_readSet inner found
      exact ⟨_,by simp [sign],.oneOf members⟩
    · split at read
      · rename_i sign
        obtain ⟨⟨set,_⟩,found,same⟩ := map_eq_ok.mp read
        obtain ⟨rfl,rfl⟩ := Prod.mk.inj same
        obtain ⟨front,rfl,members⟩ := setPhrase_of_readSet inner found
        exact ⟨_,by simp [sign],.noneOf members⟩
      · simp at read
  all_goals
    simp only [map_eq_ok,Except.ok.injEq,Prod.mk.injEq,Prod.exists,reduceCtorEq] at read
  case h_1 | h_2 =>
    obtain ⟨rfl,rfl⟩ := read
    exact ⟨[],rfl,.present⟩
  case h_3 more =>
    obtain ⟨v,_,found,rfl,rfl⟩ := read
    obtain ⟨front,rfl,value⟩ :=
      valuePhrase_of_readValue (fun t member => proper t (.tail _ member)) found
    exact ⟨_,rfl,.equals value⟩
  case h_4 more =>
    obtain ⟨v,_,found,rfl,rfl⟩ := read
    obtain ⟨front,rfl,value⟩ :=
      valuePhrase_of_readValue (fun t member => proper t (.tail _ member)) found
    exact ⟨_,rfl,.doubleEquals value⟩
  case h_5 more =>
    obtain ⟨v,_,found,rfl,rfl⟩ := read
    obtain ⟨front,rfl,value⟩ :=
      valuePhrase_of_readValue (fun t member => proper t (.tail _ member)) found
    exact ⟨_,rfl,.notEquals value⟩
  case h_6 more =>
    obtain ⟨w,_,found,rfl,rfl⟩ := read
    obtain ⟨rfl,bound⟩ := bound_of_readBound (fun t member => proper t (.tail _ member)) found
    exact ⟨[.greater,.word w],rfl,.greater w bound⟩
  case h_7 more =>
    obtain ⟨w,_,found,rfl,rfl⟩ := read
    obtain ⟨rfl,bound⟩ := bound_of_readBound (fun t member => proper t (.tail _ member)) found
    exact ⟨[.less,.word w],rfl,.less w bound⟩

theorem requirementPhrase_of_readRequirement {r : Requirement} (proper : ∀ t ∈ ts, t.IsProper)
    (read : readRequirement ts = .ok (r,rest)) :
    ∃ front, ts = front ++ rest ∧ RequirementPhrase front r := by
  unfold readRequirement at read
  split at read
  · rename_i more
    obtain ⟨⟨key,_⟩,found,same⟩ := map_eq_ok.mp read
    obtain ⟨rfl,rfl⟩ := Prod.mk.inj same
    obtain ⟨rfl,accepted⟩ := readKey_eq_ok.mp found
    exact ⟨[.bang,.word key],rfl,.absent key accepted⟩
  · split at read
    · simp at read
    · rename_i key tail found
      obtain ⟨⟨c,_⟩,condition,same⟩ := map_eq_ok.mp read
      obtain ⟨rfl,rfl⟩ := Prod.mk.inj same
      obtain ⟨rfl,accepted⟩ := readKey_eq_ok.mp found
      obtain ⟨front,rfl,phrase⟩ :=
        conditionPhrase_of_readCondition (fun t member => proper t (.tail _ member)) condition
      exact ⟨.word key :: front,rfl,.keyed key accepted phrase⟩

theorem requirementsPhrase_of_readRequirements {rs : List Requirement}
    (proper : ∀ t ∈ ts, t.IsProper) (read : readRequirements ts = .ok rs) :
    RequirementsPhrase ts rs := by
  fun_induction readRequirements ts generalizing rs <;>
    simp only [map_eq_ok,Except.ok.injEq,reduceCtorEq] at read
  case case2 ts r found =>
    subst read
    obtain ⟨front,rfl,phrase⟩ := requirementPhrase_of_readRequirement proper found
    rw [List.append_nil] at proper ⊢
    exact .one phrase
  case case4 ts r t more found _ ih =>
    obtain ⟨others,later,rfl⟩ := read
    obtain ⟨front,rfl,phrase⟩ := requirementPhrase_of_readRequirement proper found
    have inner : ∀ u ∈ t :: more, u.IsProper := fun u member => proper u (by simp_all)
    exact .more phrase (ih inner later)

end Sound

section Complete

theorem readValue_of_valuePhrase {front rest : List Token} {v : String}
    (value : ValuePhrase front v) (ends : EndsValue rest) :
    readValue (front ++ rest) = .ok (v,rest) := by
  cases value with
  | nothing =>
    cases rest with
    | nil => rfl
    | cons t rest =>
      rcases ends t rfl with rfl | rfl
      · rfl
      · rfl
  | name w accepted =>
    have read := checked_eq_ok.mpr ⟨checkValue_of_checkName accepted,rfl⟩
    simp [readValue,read,Except.map]

theorem readMembers_of_membersPhrase {front rest : List Token} {vs : List String}
    (members : MembersPhrase front vs) :
    readMembers (front ++ .closeParen :: rest) = .ok (vs,rest) := by
  induction members with
  | one value =>
    cases value with
    | nothing => rw [List.nil_append,readMembers]
    | name w accepted =>
      have read := checked_eq_ok.mpr ⟨checkValue_of_checkName accepted,rfl⟩
      simp [readMembers,read]
  | more value _ ih =>
    cases value with
    | nothing =>
      rw [List.nil_append,List.cons_append,readMembers,ih]
      rfl
    | name w accepted =>
      have read := checked_eq_ok.mpr ⟨checkValue_of_checkName accepted,rfl⟩
      simp [readMembers,read,ih,Except.map]

theorem readSet_of_setPhrase {front : List Token} {set : List String}
    (phrase : SetPhrase front set) (rest : List Token) :
    readSet (.openParen :: front ++ .closeParen :: rest) = .ok (set,rest) := by
  obtain ⟨vs,members,some,enumerated⟩ := phrase
  obtain rfl := Order.enumerated_iff.mp enumerated
  have nonempty : ¬ vs.all (· = "") := by simpa using some
  rw [List.cons_append,readSet,readMembers_of_membersPhrase members]
  simp only [nonempty,Bool.false_eq_true,if_false]

theorem readBound_of_isBound {rest : List Token} {w : String} (bound : IsBound w) :
    readBound (.word w :: rest) = .ok (w,rest) := by
  obtain ⟨accepted,n,denoted⟩ := bound
  have read : readValue (.word w :: rest) = .ok (w,rest) := by
    have valid := checked_eq_ok.mpr ⟨checkValue_of_checkName accepted,rfl⟩
    simp [readValue,valid,Except.map]
  have integer := Number.readInt64?_eq_some_iff.mpr denoted
  simp [readBound,read,integer]

theorem readCondition_of_conditionPhrase {front rest : List Token} {key : String} {c : Condition}
    (phrase : ConditionPhrase front c) (ends : EndsRequirement rest) :
    readCondition key (front ++ rest) = .ok (c,rest) := by
  have endsValue : EndsValue rest := fun t member => .inl (ends t member)
  cases phrase with
  | present =>
    cases rest with
    | nil => rfl
    | cons t rest =>
      obtain rfl := ends t rfl
      rfl
  | equals value =>
    rw [List.cons_append,readCondition,readValue_of_valuePhrase value endsValue]
    rfl
  | doubleEquals value =>
    rw [List.cons_append,readCondition,readValue_of_valuePhrase value endsValue]
    rfl
  | notEquals value =>
    rw [List.cons_append,readCondition,readValue_of_valuePhrase value endsValue]
    rfl
  | greater w bound =>
    change readCondition key (.greater :: .word w :: rest) = _
    rw [readCondition,readBound_of_isBound bound]
    rfl
  | less w bound =>
    change readCondition key (.less :: .word w :: rest) = _
    rw [readCondition,readBound_of_isBound bound]
    rfl
  | oneOf members =>
    have read := readSet_of_setPhrase members rest
    simp only [List.append_assoc,List.cons_append,List.nil_append] at read ⊢
    rw [readCondition,if_pos rfl,read]
    rfl
  | noneOf members =>
    have read := readSet_of_setPhrase members rest
    simp only [List.append_assoc,List.cons_append,List.nil_append] at read ⊢
    rw [readCondition,if_neg (by decide),if_pos rfl,read]
    rfl

theorem readRequirement_of_requirementPhrase {front rest : List Token} {r : Requirement}
    (phrase : RequirementPhrase front r) (ends : EndsRequirement rest) :
    readRequirement (front ++ rest) = .ok (r,rest) := by
  cases phrase with
  | absent key accepted =>
    change readRequirement (.bang :: .word key :: rest) = _
    rw [readRequirement,readKey_word accepted rest]
    rfl
  | @keyed ts c key accepted condition =>
    have read := readKey_word accepted (ts ++ rest)
    rw [List.cons_append]
    simp only [readRequirement,read,readCondition_of_conditionPhrase condition ends]
    rfl

theorem readRequirements_of_requirementsPhrase {ts : List Token} {rs : List Requirement}
    (phrase : RequirementsPhrase ts rs) : readRequirements ts = .ok rs := by
  induction phrase with
  | @one ts r first =>
    have read := readRequirement_of_requirementPhrase first endsRequirement_nil
    rw [List.append_nil] at read
    rw [readRequirements]
    split <;> simp_all
  | @more ts us r rs first rest ih =>
    have read := readRequirement_of_requirementPhrase first (endsRequirement_comma us)
    cases us with
    | nil => simp [readRequirements,readRequirement,readKey] at ih
    | cons u us =>
      rw [readRequirements]
      split <;> simp_all [Except.map]

end Complete

/-- Reading a token list of a text is finding the meaning of the phrase that it is. -/
theorem readRequirements_eq_ok {ts : List Token} {rs : List Requirement}
    (proper : ∀ t ∈ ts, t.IsProper) :
    readRequirements ts = .ok rs ↔ RequirementsPhrase ts rs :=
  ⟨requirementsPhrase_of_readRequirements proper,readRequirements_of_requirementsPhrase⟩

theorem RequirementsPhrase.ne_nil {ts : List Token} {rs : List Requirement}
    (phrase : RequirementsPhrase ts rs) : ts ≠ [] := by
  cases phrase with
  | one first => cases first <;> simp
  | more first _ => simp

theorem requirementsOf_eq_ok {raw : String} {rs : List Requirement} :
    requirementsOf raw = .ok rs ↔ SelectorPhrase (scan raw.toList) rs := by
  unfold requirementsOf
  split
  · rename_i none
    rw [none]
    constructor
    · intro read
      obtain rfl := Except.ok.inj read
      exact .nothing
    · intro phrase
      cases phrase with
      | nothing => rfl
      | terms requirements => exact absurd rfl requirements.ne_nil
  · rename_i some
    rw [readRequirements_eq_ok fun t member => proper_of_mem_scan member]
    generalize scan raw.toList = ts at some
    constructor
    · exact .terms
    · intro phrase
      cases phrase with
      | nothing => exact absurd rfl some
      | terms requirements => exact requirements

end ObjectMetrics.Label

namespace ObjectMetrics.Selector
open Label

theorem parse_eq_ok {raw : String} {s : Selector} :
    parse raw = .ok s ↔
      ∃ rs, requirementsOf raw = .ok rs ∧ s.requirements = Order.sortStable Requirement.key rs := by
  unfold parse read
  cases requirementsOf raw with
  | error flaw => simp [Except.map,Except.mapError]
  | ok rs =>
    simp only [Except.map,Except.mapError,Except.ok.injEq,exists_eq_left']
    cases s
    rw [mk.injEq]
    exact eq_comm

/-- A text is a selector exactly if its tokens are a phrase of the grammar. The requirements are
those that the phrase means, in the stable order of their keys; any other text is refused under
its own name. -/
theorem parse_grammar (raw : String) :
    (∀ s, parse raw = .ok s ↔ ∃ rs, SelectorPhrase (scan raw.toList) rs ∧
      Order.StablySorted Requirement.key rs s.requirements) ∧
    ((∃ s, parse raw = .ok s) ↔ ∃ rs, SelectorPhrase (scan raw.toList) rs) ∧
    ((∃ rs, SelectorPhrase (scan raw.toList) rs) ∨
      ∃ flaw, parse raw = .error (.invalidSelector raw flaw)) := by
  have meaning (s : Selector) : parse raw = .ok s ↔ ∃ rs, SelectorPhrase (scan raw.toList) rs ∧
      Order.StablySorted Requirement.key rs s.requirements := by
    simp only [parse_eq_ok,requirementsOf_eq_ok,Order.stablySorted_iff]
  refine ⟨meaning,?_,?_⟩
  · constructor
    · rintro ⟨s,parsed⟩
      obtain ⟨rs,phrase,_⟩ := (meaning s).mp parsed
      exact ⟨rs,phrase⟩
    · rintro ⟨rs,phrase⟩
      exact ⟨⟨Order.sortStable Requirement.key rs⟩,
        (meaning _).mpr ⟨rs,phrase,Order.stablySorted_sortStable _ rs⟩⟩
  · cases found : requirementsOf raw with
    | ok rs => exact .inl ⟨rs,requirementsOf_eq_ok.mp found⟩
    | error flaw =>
      refine .inr ⟨flaw,?_⟩
      simp [parse,read,found,Except.map,Except.mapError]

end ObjectMetrics.Selector
