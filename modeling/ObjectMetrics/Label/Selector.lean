import ObjectMetrics.Label.Set
import ObjectMetrics.Number.Digits
/-!
Label selectors: requirements on single labels, all of which have to hold. A selector without
requirements matches every label set.
-/
namespace ObjectMetrics

namespace Label

/-- What a requirement asks of the label under its key. A missing label satisfies the negative
conditions; the numeric ones need two integers of 64 bits. -/
inductive Condition where
  | equals (value : String)
  | notEquals (value : String)
  | oneOf (values : List String)
  | noneOf (values : List String)
  | present
  | absent
  | greaterThan (bound : String)
  | lessThan (bound : String)
deriving DecidableEq, Repr

namespace Condition

def values : Condition → List String
  | equals v | notEquals v | greaterThan v | lessThan v => [v]
  | oneOf vs | noneOf vs => vs
  | present | absent => []

def compareIntegers (rel : Int → Int → Bool) (label bound : String) : Bool :=
  match Number.readInt64? label, Number.readInt64? bound with
  | some n, some b => rel n b
  | _, _ => false

/-- Whether a label's value, or its absence, satisfies the condition. -/
def holds : Condition → Option String → Bool
  | equals v, label => label == some v
  | notEquals v, label => label != some v
  | oneOf vs, label => label.any vs.contains
  | noneOf vs, label => label.all fun value => !vs.contains value
  | present, label => label.isSome
  | absent, label => label.isNone
  | greaterThan b, label => label.any fun value => compareIntegers (fun n m => m < n) value b
  | lessThan b, label => label.any fun value => compareIntegers (fun n m => n < m) value b

end Condition

structure Requirement where
  key : String
  condition : Condition
deriving DecidableEq, Repr

namespace Requirement

def isMetBy (r : Requirement) (labels : LabelSet) : Bool :=
  r.condition.holds (labels.get? r.key)

def text (r : Requirement) : String :=
  match r.condition with
  | .equals v => r.key ++ "=" ++ v
  | .notEquals v => r.key ++ "!=" ++ v
  | .oneOf vs => r.key ++ " in (" ++ ",".intercalate vs ++ ")"
  | .noneOf vs => r.key ++ " notin (" ++ ",".intercalate vs ++ ")"
  | .present => r.key
  | .absent => "!" ++ r.key
  | .greaterThan b => r.key ++ ">" ++ b
  | .lessThan b => r.key ++ "<" ++ b

end Requirement
end Label

structure Selector where
  requirements : List Label.Requirement
deriving DecidableEq, Repr

namespace Selector

def everything : Selector := ⟨[]⟩

def isEverything (s : Selector) : Bool := s.requirements.isEmpty

def isMetBy (s : Selector) (labels : LabelSet) : Bool :=
  s.requirements.all fun r => r.isMetBy labels

def ofLabels (labels : LabelSet) : Selector :=
  ⟨labels.entries.map fun (key, value) => ⟨key, .equals value⟩⟩

def text (s : Selector) : String :=
  ",".intercalate (s.requirements.map Label.Requirement.text)

theorem isEverything_iff {s : Selector} : s.isEverything ↔ s.requirements = [] := List.isEmpty_iff

@[simp] theorem isMetBy_everything (labels : LabelSet) : everything.isMetBy labels = true := rfl

theorem isMetBy_append (rs ss : List Label.Requirement) (labels : LabelSet) :
    isMetBy ⟨rs ++ ss⟩ labels = (isMetBy ⟨rs⟩ labels && isMetBy ⟨ss⟩ labels) := by
  simp [isMetBy]

end Selector
end ObjectMetrics
