import ObjectMetrics.Proofs.Selector.Names
import ObjectMetrics.Proofs.Selector.Reading

/-! Printed selectors read back. The printed text of requirements spells canonical tokens of theirs,
which are a phrase of the same meaning, and the order of keys is already there. -/
namespace ObjectMetrics.Label

def IsValue (v : String) : Prop := v = "" ∨ checkName v = .ok ()

def valueTokens (v : String) : List Token := if v = "" then [] else [.word v]

def memberTokens : List String → List Token
  | [] => []
  | [v] => valueTokens v
  | v :: w :: vs => valueTokens v ++ .comma :: memberTokens (w :: vs)

def setTokens (vs : List String) : List Token := .openParen :: memberTokens vs ++ [.closeParen]

def Condition.tokens : Condition → List Token
  | .equals v => .equals :: valueTokens v
  | .notEquals v => .notEquals :: valueTokens v
  | .oneOf vs => .word "in" :: setTokens vs
  | .noneOf vs => .word "notin" :: setTokens vs
  | .present => []
  | .absent => []
  | .greaterThan w => [.greater,.word w]
  | .lessThan w => [.less,.word w]

/-- The printed text of a condition, as it follows the key. -/
def Condition.suffix : Condition → List Char
  | .equals v => '=' :: v.toList
  | .notEquals v => '!' :: '=' :: v.toList
  | .oneOf vs => ' ' :: "in".toList ++ ' ' :: '(' :: (",".intercalate vs).toList ++ [')']
  | .noneOf vs => ' ' :: "notin".toList ++ ' ' :: '(' :: (",".intercalate vs).toList ++ [')']
  | .present => []
  | .absent => []
  | .greaterThan w => '>' :: w.toList
  | .lessThan w => '<' :: w.toList

def Requirement.tokens (r : Requirement) : List Token :=
  if r.condition = .absent then [.bang,.word r.key] else .word r.key :: r.condition.tokens

def requirementsTokens : List Requirement → List Token
  | [] => []
  | [r] => r.tokens
  | r :: s :: rs => r.tokens ++ .comma :: requirementsTokens (s :: rs)

section Phrases

theorem valuePhrase_tokens {v : String} (value : IsValue v) : ValuePhrase (valueTokens v) v := by
  unfold valueTokens
  split
  · rename_i empty
    exact empty ▸ .nothing
  · rename_i nonempty
    rcases value with empty | accepted
    · exact absurd empty nonempty
    · exact .name v accepted

theorem ValuePhrase.isValue {ts : List Token} {v : String} (value : ValuePhrase ts v) :
    IsValue v := by
  cases value with
  | nothing => exact .inl rfl
  | name w accepted => exact .inr accepted

theorem membersPhrase_tokens {vs : List String} (nonempty : vs ≠ [])
    (values : ∀ v ∈ vs, IsValue v) : MembersPhrase (memberTokens vs) vs := by
  fun_induction memberTokens vs with
  | case1 => contradiction
  | case2 v => exact .one (valuePhrase_tokens (values v List.mem_cons_self))
  | case3 v w vs ih =>
    have rest := ih (by simp) fun u member => values u (.tail _ member)
    exact .more (valuePhrase_tokens (values v List.mem_cons_self)) rest

theorem MembersPhrase.isValue {ts : List Token} {vs : List String} (members : MembersPhrase ts vs) :
    ∀ v ∈ vs, IsValue v := by
  induction members with
  | one value =>
    intro v member
    obtain rfl := List.mem_singleton.mp member
    exact value.isValue
  | more value _ ih =>
    intro v member
    rcases List.mem_cons.mp member with rfl | later
    · exact value.isValue
    · exact ih v later

theorem SetPhrase.isValue {ts : List Token} {set : List String} (phrase : SetPhrase ts set) :
    ∀ v ∈ set, IsValue v := by
  obtain ⟨vs,members,_,enumerated⟩ := phrase
  intro v member
  exact members.isValue v ((enumerated.members v).mp member)

theorem SetPhrase.ne_nil {ts : List Token} {set : List String} (phrase : SetPhrase ts set) :
    set ≠ [] := by
  obtain ⟨vs,_,⟨v,member,_⟩,enumerated⟩ := phrase
  exact List.ne_nil_of_mem ((enumerated.members v).mpr member)

theorem SetPhrase.tokens {ts : List Token} {set : List String} (phrase : SetPhrase ts set) :
    SetPhrase (memberTokens set) set := by
  have members := membersPhrase_tokens phrase.ne_nil phrase.isValue
  obtain ⟨vs,_,⟨v,member,nonempty⟩,enumerated⟩ := phrase
  exact ⟨set,members,⟨v,(enumerated.members v).mpr member,nonempty⟩,enumerated.increasing,
    fun _ => Iff.rfl⟩

theorem ConditionPhrase.ne_absent {ts : List Token} {c : Condition} (phrase : ConditionPhrase ts c) :
    c ≠ .absent := by
  cases phrase <;> simp

theorem ConditionPhrase.tokens {ts : List Token} {c : Condition} (phrase : ConditionPhrase ts c) :
    ConditionPhrase c.tokens c := by
  cases phrase with
  | present => exact .present
  | equals value => exact .equals (valuePhrase_tokens value.isValue)
  | doubleEquals value => exact .equals (valuePhrase_tokens value.isValue)
  | notEquals value => exact .notEquals (valuePhrase_tokens value.isValue)
  | greater w bound => exact .greater w bound
  | less w bound => exact .less w bound
  | oneOf members => exact .oneOf members.tokens
  | noneOf members => exact .noneOf members.tokens

theorem RequirementPhrase.tokens {ts : List Token} {r : Requirement}
    (phrase : RequirementPhrase ts r) : RequirementPhrase r.tokens r := by
  cases phrase with
  | absent key accepted => exact .absent key accepted
  | keyed key accepted condition =>
    rw [Requirement.tokens,if_neg condition.ne_absent]
    exact .keyed key accepted condition.tokens

def Requirement.IsMeant (r : Requirement) : Prop := ∃ ts, RequirementPhrase ts r

theorem RequirementsPhrase.isMeant {ts : List Token} {rs : List Requirement}
    (phrase : RequirementsPhrase ts rs) : ∀ r ∈ rs, r.IsMeant := by
  induction phrase with
  | one first =>
    intro r member
    obtain rfl := List.mem_singleton.mp member
    exact ⟨_,first⟩
  | more first _ ih =>
    intro r member
    rcases List.mem_cons.mp member with rfl | later
    · exact ⟨_,first⟩
    · exact ih r later

theorem SelectorPhrase.isMeant {ts : List Token} {rs : List Requirement}
    (phrase : SelectorPhrase ts rs) : ∀ r ∈ rs, r.IsMeant := by
  cases phrase with
  | nothing => simp
  | terms requirements => exact requirements.isMeant

theorem requirementsPhrase_tokens {rs : List Requirement} (nonempty : rs ≠ [])
    (meant : ∀ r ∈ rs, r.IsMeant) : RequirementsPhrase (requirementsTokens rs) rs := by
  fun_induction requirementsTokens rs with
  | case1 => contradiction
  | case2 r =>
    obtain ⟨ts,phrase⟩ := meant r List.mem_cons_self
    exact .one phrase.tokens
  | case3 r s rs ih =>
    obtain ⟨ts,phrase⟩ := meant r List.mem_cons_self
    exact .more phrase.tokens (ih (by simp) fun t member => meant t (.tail _ member))

theorem selectorPhrase_tokens {rs : List Requirement} (meant : ∀ r ∈ rs, r.IsMeant) :
    SelectorPhrase (requirementsTokens rs) rs := by
  cases rs with
  | nil => exact .nothing
  | cons r rs => exact .terms (requirementsPhrase_tokens (by simp) meant)

end Phrases

section Texts

variable {ts : List Token} {cs : List Char}

/-- Where a printed value ends. -/
def Stops (cs : List Char) : Prop := ∀ c ∈ cs.head?, c = ',' ∨ c = ')'

theorem stops_nil : Stops [] := by simp [Stops]

theorem stops_comma : Stops (',' :: cs) := by simp [Stops]

theorem stops_closeParen : Stops (')' :: cs) := by simp [Stops]

theorem Stops.not_isWordChar (stops : Stops cs) : ∀ c ∈ cs.head?, isWordChar c = false := by
  intro c member
  rcases stops c member with rfl | rfl
  · decide
  · decide

theorem spelling_word {w : String} (word : IsWord w) (ends : ∀ c ∈ cs.head?, isWordChar c = false)
    (rest : Spelling ts cs) : Spelling (.word w :: ts) (w.toList ++ cs) :=
  .token (.word w) word ends rest

theorem spelling_value {v : String} (value : IsValue v) (stops : Stops cs)
    (rest : Spelling ts cs) : Spelling (valueTokens v ++ ts) (v.toList ++ cs) := by
  unfold valueTokens
  split
  · rename_i empty
    simpa [empty] using rest
  · rename_i nonempty
    rcases value with empty | accepted
    · exact absurd empty nonempty
    · exact spelling_word (isWord_of_checkName accepted) stops.not_isWordChar rest

private theorem head_word_ne_equals {w : String} (word : IsWord w) :
    ∀ c ∈ (w.toList ++ cs).head?, c ≠ '=' := by
  rintro c member rfl
  cases letters : w.toList with
  | nil => exact word.1 (String.toList_eq_nil_iff.mp letters)
  | cons d rest =>
    rw [letters] at member
    obtain rfl : d = '=' := by simpa using member
    have inside := word.2 '=' (by simp [letters])
    exact absurd inside (by decide)

/-- No sign of a requirement runs into its value. -/
private theorem head_value_ne_equals {v : String} (value : IsValue v) (stops : Stops cs) :
    ∀ c ∈ (v.toList ++ cs).head?, c ≠ '=' := by
  rcases value with rfl | accepted
  · intro c member
    rcases stops c member with rfl | rfl
    · decide
    · decide
  · exact head_word_ne_equals (isWord_of_checkName accepted)

theorem spelling_members {vs : List String} (nonempty : vs ≠ []) (values : ∀ v ∈ vs, IsValue v)
    (rest : Spelling ts cs) :
    Spelling (memberTokens vs ++ .closeParen :: ts) ((",".intercalate vs).toList ++ ')' :: cs) := by
  fun_induction memberTokens vs with
  | case1 => contradiction
  | case2 v =>
    rw [String.intercalate_singleton]
    have close := Spelling.token .closeParen trivial (fun _ _ => rfl) rest
    exact spelling_value (values v List.mem_cons_self) stops_closeParen close
  | case3 v w vs ih =>
    have more := ih (by simp) fun u member => values u (.tail _ member)
    have comma := Spelling.token .comma trivial (fun _ _ => rfl) more
    have spelled := spelling_value (values v List.mem_cons_self) stops_comma comma
    rw [String.intercalate_cons_cons]
    simp only [String.toList_append,List.append_assoc]
    exact spelled

theorem spelling_set {us : List Token} {set : List String} (phrase : SetPhrase us set)
    (rest : Spelling ts cs) :
    Spelling (setTokens set ++ ts) ('(' :: (",".intercalate set).toList ++ ')' :: cs) := by
  have members := spelling_members phrase.ne_nil phrase.isValue rest
  rw [setTokens,List.append_assoc]
  exact .token .openParen trivial (fun _ _ => rfl) members

private theorem spelling_operator {w : String} {us : List Token} {set : List String}
    (word : IsWord w) (phrase : SetPhrase us set) (rest : Spelling ts cs) :
    Spelling (.word w :: setTokens set ++ ts)
      (' ' :: w.toList ++ ' ' :: '(' :: (",".intercalate set).toList ++ ')' :: cs) := by
  have inner := Spelling.blank ' ' (by decide) (spelling_set phrase rest)
  have spelled := Spelling.blank ' ' (by decide) (spelling_word word (by simp; decide) inner)
  simpa only [List.cons_append,List.append_assoc] using spelled

theorem spelling_condition {us : List Token} {c : Condition} (phrase : ConditionPhrase us c)
    (stops : Stops cs) (rest : Spelling ts cs) :
    Spelling (c.tokens ++ ts) (c.suffix ++ cs) := by
  have equals {us : List Token} {v : String} (value : ValuePhrase us v) :
      Spelling (.equals :: valueTokens v ++ ts) ('=' :: v.toList ++ cs) :=
    .token .equals trivial
      (fun c member => decide_eq_false (head_value_ne_equals value.isValue stops c member))
      (spelling_value value.isValue stops rest)
  have bound {w : String} (valid : IsBound w) : Spelling (.word w :: ts) (w.toList ++ cs) :=
    spelling_word (isWord_of_checkName valid.1) stops.not_isWordChar rest
  cases phrase with
  | present => exact rest
  | equals value => exact equals value
  | doubleEquals value => exact equals value
  | notEquals value =>
    exact .token .notEquals trivial (fun _ _ => rfl) (spelling_value value.isValue stops rest)
  | greater w valid => exact .token .greater trivial (fun _ _ => rfl) (bound valid)
  | less w valid => exact .token .less trivial (fun _ _ => rfl) (bound valid)
  | oneOf members =>
    have spelled := spelling_operator (w := "in") (by decide) members rest
    simpa only [Condition.tokens,Condition.suffix,List.append_assoc,List.cons_append,
      List.nil_append] using spelled
  | noneOf members =>
    have spelled := spelling_operator (w := "notin") (by decide) members rest
    simpa only [Condition.tokens,Condition.suffix,List.append_assoc,List.cons_append,
      List.nil_append] using spelled

private theorem head_suffix_not_isWordChar {us : List Token} {c : Condition}
    (phrase : ConditionPhrase us c) (stops : Stops cs) :
    ∀ d ∈ (c.suffix ++ cs).head?, isWordChar d = false := by
  cases phrase with
  | present => exact stops.not_isWordChar
  | _ =>
    intro d member
    obtain rfl := Option.some.inj member
    decide

private theorem text_eq_suffix {key : String} {c : Condition} (keyed : c ≠ .absent) :
    (Requirement.mk key c).text.toList = key.toList ++ c.suffix := by
  cases c <;> simp_all [Requirement.text,Condition.suffix]

/-- The printed text of a requirement spells its canonical tokens, whatever ends it. -/
theorem spelling_requirement {us : List Token} {r : Requirement} (phrase : RequirementPhrase us r)
    (stops : Stops cs) (rest : Spelling ts cs) :
    Spelling (r.tokens ++ ts) (r.text.toList ++ cs) := by
  cases phrase with
  | absent key accepted =>
    have word := isWord_of_checkKey accepted
    have spelled := spelling_word word stops.not_isWordChar rest
    simp only [Requirement.text,String.toList_append,List.append_assoc]
    exact .token .bang trivial
      (fun c member => decide_eq_false (head_word_ne_equals word c member)) spelled
  | keyed key accepted condition =>
    have word := isWord_of_checkKey accepted
    have tail := spelling_condition condition stops rest
    rw [Requirement.tokens,if_neg condition.ne_absent,text_eq_suffix condition.ne_absent]
    rw [List.append_assoc,List.cons_append]
    exact spelling_word word (head_suffix_not_isWordChar condition stops) tail

theorem spelling_requirements {rs : List Requirement} (nonempty : rs ≠ [])
    (meant : ∀ r ∈ rs, r.IsMeant) :
    Spelling (requirementsTokens rs) (",".intercalate (rs.map Requirement.text)).toList := by
  fun_induction requirementsTokens rs with
  | case1 => contradiction
  | case2 r =>
    obtain ⟨us,phrase⟩ := meant r List.mem_cons_self
    rw [List.map_singleton,String.intercalate_singleton]
    simpa only [List.append_nil] using spelling_requirement phrase stops_nil .done
  | case3 r s rs ih =>
    obtain ⟨us,phrase⟩ := meant r List.mem_cons_self
    have more := ih (by simp) fun t member => meant t (.tail _ member)
    have comma := Spelling.token .comma trivial (fun _ _ => rfl) more
    have spelled := spelling_requirement phrase stops_comma comma
    rw [List.map_cons,List.map_cons,String.intercalate_cons_cons]
    simp only [String.toList_append,List.append_assoc]
    exact spelled

end Texts

end ObjectMetrics.Label

namespace ObjectMetrics.Selector
open Label

theorem scan_text {s : Selector} (meant : ∀ r ∈ s.requirements, r.IsMeant) :
    scan s.text.toList = requirementsTokens s.requirements := by
  rw [scan_eq_iff]
  cases empty : s.requirements with
  | nil =>
    rw [text,empty,List.map_nil,String.intercalate_nil]
    exact .done
  | cons r rs =>
    rw [empty] at meant
    rw [text,empty]
    exact spelling_requirements (by simp) meant

/-- A selector that some text has: requirements that phrases mean, in the order of their keys. -/
structure Canonical (s : Selector) : Prop where
  meant : ∀ r ∈ s.requirements, r.IsMeant
  ordered : s.requirements.Pairwise fun r t => r.key ≤ t.key

theorem canonical_of_parse {raw : String} {s : Selector} (parsed : parse raw = .ok s) :
    s.Canonical := by
  obtain ⟨rs,read,sorted⟩ := parse_eq_ok.mp parsed
  have stable := Order.stablySorted_iff.mpr sorted
  refine ⟨fun r member => ?_,stable.ordered⟩
  exact (requirementsOf_eq_ok.mp read).isMeant r ((stable.mem_iff r).mp member)

theorem Canonical.parse_printed {s : Selector} (canonical : s.Canonical) : parse s.text = .ok s := by
  refine parse_eq_ok.mpr ⟨s.requirements,?_,?_⟩
  · rw [requirementsOf_eq_ok,scan_text canonical.meant]
    exact selectorPhrase_tokens canonical.meant
  · exact (Order.sortStable_of_ordered canonical.ordered).symm

/-- The printed text of a selector that was read is read as the same selector. -/
theorem parse_text {raw : String} {s : Selector} (parsed : parse raw = .ok s) :
    parse s.text = .ok s := by
  have canonical := canonical_of_parse parsed
  exact canonical.parse_printed

theorem parse_text_terms_out_of_order :
    parse "in notin (x), b in (,a,,a), !k, b!=, 0>7" =
      .ok ⟨[⟨"0",.greaterThan "7"⟩,⟨"b",.oneOf ["","a"]⟩,⟨"b",.notEquals ""⟩,
        ⟨"in",.noneOf ["x"]⟩,⟨"k",.absent⟩]⟩ ∧
    parse (text ⟨[⟨"0",.greaterThan "7"⟩,⟨"b",.oneOf ["","a"]⟩,⟨"b",.notEquals ""⟩,
        ⟨"in",.noneOf ["x"]⟩,⟨"k",.absent⟩]⟩) =
      .ok ⟨[⟨"0",.greaterThan "7"⟩,⟨"b",.oneOf ["","a"]⟩,⟨"b",.notEquals ""⟩,
        ⟨"in",.noneOf ["x"]⟩,⟨"k",.absent⟩]⟩ := by
  have parsed : parse "in notin (x), b in (,a,,a), !k, b!=, 0>7" =
      .ok ⟨[⟨"0",.greaterThan "7"⟩,⟨"b",.oneOf ["","a"]⟩,⟨"b",.notEquals ""⟩,
        ⟨"in",.noneOf ["x"]⟩,⟨"k",.absent⟩]⟩ := by decide +kernel
  exact ⟨parsed,parse_text parsed⟩

end ObjectMetrics.Selector
