import ObjectMetrics.Label.Name
import ObjectMetrics.Label.Selector
import ObjectMetrics.Label.Token
/-!
Reading selectors and label sets from text. Requirements are separated by commas and end up in the
order of their keys; requirements on one key keep their order. A text either has a selector or a
flaw, the first one from the left.
-/
namespace ObjectMetrics

namespace Label

inductive Flaw where
  | keyExpected (found : Option Token)
  | operatorExpected (key : String) (found : Token)
  | valueExpected (found : Token)
  | badName (flaw : NameFlaw)
  | notAnInteger (value : String)
  | setExpected
  | setNotContinued (found : Token)
  | setNotClosed
  | setOfNothing
  | commaExpected (found : Token)
  | commaAtEnd
  | notAnEquality (requirement : Requirement)
deriving DecidableEq, Repr

def NameFlaw.message : NameFlaw → String
  | .length s => Text.quote s ++ s!" must be 1-{maxNameLength} characters"
  | .characters s =>
    Text.quote s ++ " must consist of alphanumerics, '-', '_' or '.', " ++
      "and begin and end with an alphanumeric"
  | .domain key => Text.quote key ++ " has an invalid DNS subdomain prefix"

def Flaw.message : Flaw → String
  | keyExpected (some t) => "expected a label key, found " ++ t.display
  | keyExpected none => "expected a label key"
  | operatorExpected key t =>
    "expected an operator after " ++ Text.quote key ++ ", found " ++ t.display
  | valueExpected t => "expected a label value, found " ++ t.display
  | badName flaw => flaw.message
  | notAnInteger v => Text.quote v ++ " is not an integer"
  | setExpected => "expected '(' after set operator"
  | setNotContinued t => "expected ',' or ')', found " ++ t.display
  | setNotClosed => "unterminated value set"
  | setOfNothing => "values set can't be empty"
  | commaExpected t => "expected ',' but found " ++ t.display
  | commaAtEnd => "trailing ','"
  | notAnEquality r => r.text ++ " is not a key=value pair"

def checked (check : String → Except NameFlaw Unit) (w : String) : Except Flaw String :=
  match check w with
  | .ok _ => .ok w
  | .error flaw => .error (.badName flaw)

def readKey : List Token → Except Flaw (String × List Token)
  | .word w :: ts => (checked checkKey w).map (·, ts)
  | t :: _ => .error (.keyExpected (some t))
  | [] => .error (.keyExpected none)

/-- Read a value. Nothing at all is the empty value where a value may end. -/
def readValue : List Token → Except Flaw (String × List Token)
  | .word w :: ts => (checked checkValue w).map (·, ts)
  | [] => .ok ("", [])
  | .comma :: ts => .ok ("", .comma :: ts)
  | .closeParen :: ts => .ok ("", .closeParen :: ts)
  | t :: _ => .error (.valueExpected t)

def readMembers : List Token → Except Flaw (List String × List Token)
  | [] => .error .setNotClosed
  | .comma :: ts => (readMembers ts).map fun (vs, rest) => ("" :: vs, rest)
  | .closeParen :: ts => .ok ([""], ts)
  | .word w :: ts =>
    match checked checkValue w, ts with
    | .error flaw, _ => .error flaw
    | .ok v, .comma :: more => (readMembers more).map fun (vs, rest) => (v :: vs, rest)
    | .ok v, .closeParen :: more => .ok ([v], more)
    | .ok _, t :: _ => .error (.setNotContinued t)
    | .ok _, [] => .error .setNotClosed
  | t :: _ => .error (.valueExpected t)

/-- Read a set of values, kept in increasing order; one of them must not be empty. -/
def readSet : List Token → Except Flaw (List String × List Token)
  | .openParen :: ts =>
    match readMembers ts with
    | .error flaw => .error flaw
    | .ok (vs, rest) =>
      if vs.all (· = "") then .error .setOfNothing else .ok (Order.distinct id vs, rest)
  | _ => .error .setExpected

def readBound (ts : List Token) : Except Flaw (String × List Token) :=
  match readValue ts with
  | .error flaw => .error flaw
  | .ok (v, rest) =>
    if (Number.readInt64? v).isSome then .ok (v, rest) else .error (.notAnInteger v)

def readCondition (key : String) : List Token → Except Flaw (Condition × List Token)
  | [] => .ok (.present, [])
  | .comma :: ts => .ok (.present, .comma :: ts)
  | .equals :: ts => (readValue ts).map fun (v, rest) => (.equals v, rest)
  | .doubleEquals :: ts => (readValue ts).map fun (v, rest) => (.equals v, rest)
  | .notEquals :: ts => (readValue ts).map fun (v, rest) => (.notEquals v, rest)
  | .greater :: ts => (readBound ts).map fun (v, rest) => (.greaterThan v, rest)
  | .less :: ts => (readBound ts).map fun (v, rest) => (.lessThan v, rest)
  | .word w :: ts =>
    if w = "in" then (readSet ts).map fun (vs, rest) => (.oneOf vs, rest)
    else if w = "notin" then (readSet ts).map fun (vs, rest) => (.noneOf vs, rest)
    else .error (.operatorExpected key (.word w))
  | t :: _ => .error (.operatorExpected key t)

def readRequirement : List Token → Except Flaw (Requirement × List Token)
  | .bang :: ts => (readKey ts).map fun (key, rest) => (⟨key, .absent⟩, rest)
  | ts =>
    match readKey ts with
    | .error flaw => .error flaw
    | .ok (key, rest) =>
      (readCondition key rest).map fun (condition, rest) => (⟨key, condition⟩, rest)

theorem map_eq_ok {ε α β : Type} {x : Except ε α} {f : α → β} {b : β} :
    x.map f = .ok b ↔ ∃ a, x = .ok a ∧ f a = b := by
  cases x <;> simp [Except.map]

theorem readKey_length {ts rest : List Token} {key : String}
    (h : readKey ts = .ok (key, rest)) : rest.length < ts.length := by
  unfold readKey at h
  split at h <;> simp only [map_eq_ok, Prod.mk.injEq, reduceCtorEq] at h
  obtain ⟨_, _, _, rfl⟩ := h
  simp

theorem readValue_length {ts rest : List Token} {v : String}
    (h : readValue ts = .ok (v, rest)) : rest.length ≤ ts.length := by
  unfold readValue at h
  split at h <;>
    simp only [map_eq_ok, Except.ok.injEq, Prod.mk.injEq, reduceCtorEq] at h
  · obtain ⟨_, _, _, rfl⟩ := h
    simp
  all_goals
    obtain ⟨_, rfl⟩ := h
    exact Nat.le_refl _

theorem readMembers_length {ts rest : List Token} {vs : List String}
    (h : readMembers ts = .ok (vs, rest)) : rest.length ≤ ts.length := by
  fun_induction readMembers ts generalizing vs <;>
    simp only [map_eq_ok, Except.ok.injEq, Prod.mk.injEq, Prod.exists, reduceCtorEq] at h
  · rename_i ih
    obtain ⟨_, _, read, _, rfl⟩ := h
    exact Nat.le_succ_of_le (ih read)
  · obtain ⟨_, rfl⟩ := h
    simp
  · rename_i ih
    obtain ⟨_, _, read, _, rfl⟩ := h
    exact Nat.le_succ_of_le (Nat.le_succ_of_le (ih read))
  · obtain ⟨_, rfl⟩ := h
    simp; omega

theorem readSet_length {ts rest : List Token} {vs : List String}
    (h : readSet ts = .ok (vs, rest)) : rest.length ≤ ts.length := by
  unfold readSet at h
  split at h
  · split at h
    · simp at h
    · rename_i read
      split at h <;> simp only [Except.ok.injEq, Prod.mk.injEq, reduceCtorEq] at h
      obtain ⟨_, rfl⟩ := h
      exact Nat.le_succ_of_le (readMembers_length read)
  · simp at h

theorem readBound_length {ts rest : List Token} {v : String}
    (h : readBound ts = .ok (v, rest)) : rest.length ≤ ts.length := by
  unfold readBound at h
  split at h
  · simp at h
  · rename_i read
    split at h <;> simp only [Except.ok.injEq, Prod.mk.injEq, reduceCtorEq] at h
    obtain ⟨_, rfl⟩ := h
    exact readValue_length read

theorem readCondition_length {key : String} {ts rest : List Token} {c : Condition}
    (h : readCondition key ts = .ok (c, rest)) : rest.length ≤ ts.length := by
  unfold readCondition at h
  split at h
  case h_8 =>
    split at h
    · simp only [map_eq_ok, Prod.mk.injEq, Prod.exists] at h
      obtain ⟨_, _, read, _, rfl⟩ := h
      exact Nat.le_succ_of_le (readSet_length read)
    · split at h <;> simp only [map_eq_ok, Prod.mk.injEq, Prod.exists, reduceCtorEq] at h
      obtain ⟨_, _, read, _, rfl⟩ := h
      exact Nat.le_succ_of_le (readSet_length read)
  all_goals
    simp only [map_eq_ok, Except.ok.injEq, Prod.mk.injEq, Prod.exists, reduceCtorEq] at h
  case h_1 | h_2 =>
    obtain ⟨_, rfl⟩ := h
    exact Nat.le_refl _
  case h_3 | h_4 | h_5 =>
    obtain ⟨_, _, read, _, rfl⟩ := h
    exact Nat.le_succ_of_le (readValue_length read)
  case h_6 | h_7 =>
    obtain ⟨_, _, read, _, rfl⟩ := h
    exact Nat.le_succ_of_le (readBound_length read)

theorem readRequirement_length {ts rest : List Token} {r : Requirement}
    (h : readRequirement ts = .ok (r, rest)) : rest.length < ts.length := by
  unfold readRequirement at h
  split at h
  · simp only [map_eq_ok, Prod.mk.injEq, Prod.exists] at h
    obtain ⟨_, _, read, _, rfl⟩ := h
    exact Nat.lt_succ_of_lt (readKey_length read)
  · split at h
    · simp at h
    · rename_i key
      simp only [map_eq_ok, Prod.mk.injEq, Prod.exists] at h
      obtain ⟨_, _, read, _, rfl⟩ := h
      exact Nat.lt_of_le_of_lt (readCondition_length read) (readKey_length key)

def readRequirements (ts : List Token) : Except Flaw (List Requirement) :=
  match h : readRequirement ts with
  | .error flaw => .error flaw
  | .ok (r, []) => .ok [r]
  | .ok (_, [.comma]) => .error .commaAtEnd
  | .ok (r, .comma :: t :: more) =>
    have := readRequirement_length h
    (readRequirements (t :: more)).map (r :: ·)
  | .ok (_, t :: _) => .error (.commaExpected t)
termination_by ts.length
decreasing_by simp_all; omega

def requirementsOf (raw : String) : Except Flaw (List Requirement) :=
  match scan raw.toList with
  | [] => .ok []
  | ts => readRequirements ts

end Label

namespace Selector

def read (raw : String) : Except Label.Flaw Selector :=
  (Label.requirementsOf raw).map fun rs => ⟨Order.sortStable Label.Requirement.key rs⟩

end Selector

namespace LabelSet

def equality (r : Label.Requirement) : Except Label.Flaw (String × String) :=
  match r.condition with
  | .equals v => .ok (r.key, v)
  | _ => .error (.notAnEquality r)

/-- Read a label set from a selector text that holds equality terms only. Of two terms on one key
the later counts. -/
def read (raw : String) : Except Label.Flaw LabelSet :=
  match Selector.read raw with
  | .error flaw => .error flaw
  | .ok selector => (selector.requirements.mapM equality).map ofList

end LabelSet
end ObjectMetrics
