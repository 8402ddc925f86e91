import ObjectMetrics.Label.Name
import ObjectMetrics.Label.Selector
import ObjectMetrics.Label.Token
import ObjectMetrics.Proofs.Number.Numeral
import ObjectMetrics.Proofs.Order.Stable

/-! The grammar of selectors over tokens, with what each phrase means. -/
namespace ObjectMetrics.Label

inductive ValuePhrase : List Token → String → Prop
  | nothing : ValuePhrase [] ""
  | name (w : String) (accepted : checkName w = .ok ()) : ValuePhrase [.word w] w

/-- Values with commas between them. -/
inductive MembersPhrase : List Token → List String → Prop
  | one {ts : List Token} {v : String} (value : ValuePhrase ts v) : MembersPhrase ts [v]
  | more {ts us : List Token} {v : String} {vs : List String} (value : ValuePhrase ts v)
      (rest : MembersPhrase us vs) : MembersPhrase (ts ++ .comma :: us) (v :: vs)

/-- The set of some values, of which one at least is not empty. -/
def SetPhrase (ts : List Token) (set : List String) : Prop :=
  ∃ vs, MembersPhrase ts vs ∧ (∃ v ∈ vs, v ≠ "") ∧ Order.Enumerated vs set

def IsBound (w : String) : Prop :=
  checkName w = .ok () ∧ ∃ n, Number.SignedNumeral w.toList n ∧ Number.IsInt64 n

/-- What may follow the key of a requirement. -/
inductive ConditionPhrase : List Token → Condition → Prop
  | present : ConditionPhrase [] .present
  | equals {ts : List Token} {v : String} (value : ValuePhrase ts v) :
      ConditionPhrase (.equals :: ts) (.equals v)
  | doubleEquals {ts : List Token} {v : String} (value : ValuePhrase ts v) :
      ConditionPhrase (.doubleEquals :: ts) (.equals v)
  | notEquals {ts : List Token} {v : String} (value : ValuePhrase ts v) :
      ConditionPhrase (.notEquals :: ts) (.notEquals v)
  | greater (w : String) (bound : IsBound w) :
      ConditionPhrase [.greater,.word w] (.greaterThan w)
  | less (w : String) (bound : IsBound w) : ConditionPhrase [.less,.word w] (.lessThan w)
  | oneOf {ts : List Token} {set : List String} (members : SetPhrase ts set) :
      ConditionPhrase (.word "in" :: .openParen :: ts ++ [.closeParen]) (.oneOf set)
  | noneOf {ts : List Token} {set : List String} (members : SetPhrase ts set) :
      ConditionPhrase (.word "notin" :: .openParen :: ts ++ [.closeParen]) (.noneOf set)

inductive RequirementPhrase : List Token → Requirement → Prop
  | absent (key : String) (accepted : checkKey key = .ok ()) :
      RequirementPhrase [.bang,.word key] ⟨key,.absent⟩
  | keyed {ts : List Token} {c : Condition} (key : String) (accepted : checkKey key = .ok ())
      (condition : ConditionPhrase ts c) : RequirementPhrase (.word key :: ts) ⟨key,c⟩

/-- Requirements with commas between them. -/
inductive RequirementsPhrase : List Token → List Requirement → Prop
  | one {ts : List Token} {r : Requirement} (first : RequirementPhrase ts r) :
      RequirementsPhrase ts [r]
  | more {ts us : List Token} {r : Requirement} {rs : List Requirement}
      (first : RequirementPhrase ts r) (rest : RequirementsPhrase us rs) :
      RequirementsPhrase (ts ++ .comma :: us) (r :: rs)

inductive SelectorPhrase : List Token → List Requirement → Prop
  | nothing : SelectorPhrase [] []
  | terms {ts : List Token} {rs : List Requirement} (requirements : RequirementsPhrase ts rs) :
      SelectorPhrase ts rs

end ObjectMetrics.Label
