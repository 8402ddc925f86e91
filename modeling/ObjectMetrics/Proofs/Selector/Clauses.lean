import ObjectMetrics.Proofs.Selector.Printing

/-! Requirements taken apart into clauses: a key, an operator, and a list of values that may or may not
fit the operator. Printing a clause or entering its label into a set takes a value out of the list and
breaks down where there is none. The clauses of a selector that can be had always fit. -/
namespace ObjectMetrics.Label

inductive Operator where
  | equals
  | notEquals
  | oneOf
  | noneOf
  | present
  | absent
  | greaterThan
  | lessThan
deriving DecidableEq, Repr

/-- What an operator asks of its values. -/
def Operator.Accepts : Operator → List String → Prop
  | .equals, vs | .notEquals, vs => ∃ v, vs = [v]
  | .oneOf, vs | .noneOf, vs => Order.Increasing id vs ∧ vs ≠ [] ∧ ∃ v ∈ vs, v ≠ ""
  | .present, vs | .absent, vs => vs = []
  | .greaterThan, vs | .lessThan, vs =>
    ∃ v, vs = [v] ∧ ∃ n, Number.SignedNumeral v.toList n ∧ Number.IsInt64 n

structure Clause where
  key : String
  operator : Operator
  values : List String
deriving DecidableEq, Repr

def Clause.Fits (c : Clause) : Prop := c.operator.Accepts c.values

def Condition.operator : Condition → Operator
  | .equals _ => .equals
  | .notEquals _ => .notEquals
  | .oneOf _ => .oneOf
  | .noneOf _ => .noneOf
  | .present => .present
  | .absent => .absent
  | .greaterThan _ => .greaterThan
  | .lessThan _ => .lessThan

def Requirement.clause (r : Requirement) : Clause := ⟨r.key,r.condition.operator,r.condition.values⟩

section Using

namespace Clause

/-- The printed text of a clause; nothing if it has no value where the text needs one. -/
def text? (c : Clause) : Option String :=
  match c.operator with
  | .equals => c.values[0]?.map fun v => c.key ++ "=" ++ v
  | .notEquals => c.values[0]?.map fun v => c.key ++ "!=" ++ v
  | .oneOf => some (c.key ++ " in (" ++ ",".intercalate c.values ++ ")")
  | .noneOf => some (c.key ++ " notin (" ++ ",".intercalate c.values ++ ")")
  | .present => some c.key
  | .absent => some ("!" ++ c.key)
  | .greaterThan => c.values[0]?.map fun v => c.key ++ ">" ++ v
  | .lessThan => c.values[0]?.map fun v => c.key ++ "<" ++ v

theorem Fits.isSome_text? {c : Clause} (fits : c.Fits) : c.text?.isSome := by
  obtain ⟨key,operator,values⟩ := c
  cases operator with
  | equals | notEquals =>
    obtain ⟨v,rfl⟩ := fits
    rfl
  | greaterThan | lessThan =>
    obtain ⟨v,rfl,_⟩ := fits
    rfl
  | _ => rfl

end Clause

theorem Requirement.text?_clause (r : Requirement) : r.clause.text? = some r.text := by
  obtain ⟨key,condition⟩ := r
  cases condition <;> rfl

def clausesText? (cs : List Clause) : Option String := (cs.mapM Clause.text?).map (",".intercalate ·)

/-- Enter the labels of clauses into a set, from the left, up to a clause that is no equality; nothing
if a clause has no value for its label or for the message that refuses it. -/
def enterLabels? (labels : LabelSet) : List Clause → Option (Except String LabelSet)
  | [] => some (.ok labels)
  | c :: cs =>
    if c.operator = .equals then c.values[0]?.bind fun v => enterLabels? (labels.insert c.key v) cs
    else c.text?.map fun text => .error (text ++ " is not a key=value pair")

theorem isSome_clausesText? {cs : List Clause} (fit : ∀ c ∈ cs, c.Fits) :
    (clausesText? cs).isSome := by
  rw [clausesText?,Option.isSome_map]
  induction cs with
  | nil => rfl
  | cons c cs ih =>
    obtain ⟨first,later⟩ := List.forall_mem_cons.mp fit
    obtain ⟨text,printed⟩ := Option.isSome_iff_exists.mp first.isSome_text?
    obtain ⟨texts,others⟩ := Option.isSome_iff_exists.mp (ih later)
    rw [List.mapM_cons,printed,others]
    rfl

theorem isSome_enterLabels? {cs : List Clause} (fit : ∀ c ∈ cs, c.Fits) (labels : LabelSet) :
    (enterLabels? labels cs).isSome := by
  induction cs generalizing labels with
  | nil => rfl
  | cons c cs ih =>
    obtain ⟨first,later⟩ := List.forall_mem_cons.mp fit
    rw [enterLabels?]
    split
    · rename_i equality
      obtain ⟨key,operator,values⟩ := c
      subst equality
      obtain ⟨v,rfl⟩ := first
      exact ih later _
    · rw [Option.isSome_map]
      exact first.isSome_text?

theorem clausesText?_eq (rs : List Requirement) :
    clausesText? (rs.map Requirement.clause) = some (Selector.text ⟨rs⟩) := by
  have texts : (rs.map Requirement.clause).mapM Clause.text? = some (rs.map Requirement.text) := by
    induction rs with
    | nil => rfl
    | cons r rs ih =>
      rw [List.map_cons,List.mapM_cons,r.text?_clause,ih]
      rfl
  rw [clausesText?,texts]
  rfl

theorem enterLabels?_eq (rs : List Requirement) (labels : LabelSet) :
    enterLabels? labels (rs.map Requirement.clause) =
      some (((rs.mapM LabelSet.equality).map fun pairs =>
        pairs.foldl (fun labels pair => labels.insert pair.1 pair.2) labels).mapError
          Flaw.message) := by
  induction rs generalizing labels with
  | nil => rfl
  | cons r rs ih =>
    rw [List.map_cons,enterLabels?,List.mapM_cons]
    obtain ⟨key,condition⟩ := r
    cases condition with
    | equals v =>
      change enterLabels? (labels.insert key v) (rs.map Requirement.clause) = _
      rw [ih]
      cases rs.mapM LabelSet.equality <;> rfl
    | _ =>
      rw [Requirement.text?_clause]
      rfl

end Using

section Fitting

theorem SetPhrase.accepts {ts : List Token} {set : List String} (phrase : SetPhrase ts set) :
    Order.Increasing id set ∧ set ≠ [] ∧ ∃ v ∈ set, v ≠ "" := by
  refine ⟨?_,phrase.ne_nil,?_⟩
  · obtain ⟨_,_,_,enumerated⟩ := phrase
    exact enumerated.increasing
  · obtain ⟨_,_,⟨v,member,nonempty⟩,enumerated⟩ := phrase
    exact ⟨v,(enumerated.members v).mpr member,nonempty⟩

theorem ConditionPhrase.accepts {ts : List Token} {c : Condition} (phrase : ConditionPhrase ts c) :
    c.operator.Accepts c.values := by
  cases phrase with
  | present => rfl
  | equals value => exact ⟨_,rfl⟩
  | doubleEquals value => exact ⟨_,rfl⟩
  | notEquals value => exact ⟨_,rfl⟩
  | greater w bound => exact ⟨w,rfl,bound.2⟩
  | less w bound => exact ⟨w,rfl,bound.2⟩
  | oneOf members => exact members.accepts
  | noneOf members => exact members.accepts

theorem Requirement.IsMeant.fits {r : Requirement} (meant : r.IsMeant) : r.clause.Fits := by
  obtain ⟨ts,phrase⟩ := meant
  cases phrase with
  | absent key accepted => rfl
  | keyed key accepted condition => exact condition.accepts

end Fitting

end ObjectMetrics.Label

namespace ObjectMetrics.Selector
open Label

def clauses (s : Selector) : List Clause := s.requirements.map Requirement.clause

/-- The selectors there are. -/
inductive Obtained : Selector → Prop
  | parsed {raw : String} {s : Selector} (read : parse raw = .ok s) : Obtained s
  | ofLabels (labels : LabelSet) : Obtained (ofLabels labels)
  | everything : Obtained everything

structure IsSound (s : Selector) : Prop where
  fit : ∀ c ∈ s.clauses, c.Fits
  ordered : s.clauses.Pairwise fun c d => c.key ≤ d.key

theorem Canonical.isSound {s : Selector} (canonical : s.Canonical) : s.IsSound where
  fit := by
    intro c member
    obtain ⟨r,there,rfl⟩ := List.mem_map.mp member
    exact (canonical.meant r there).fits
  ordered := List.pairwise_map.mpr canonical.ordered

theorem isSound_ofLabels (labels : LabelSet) : (ofLabels labels).IsSound where
  fit := by
    intro c member
    obtain ⟨r,there,rfl⟩ := List.mem_map.mp member
    obtain ⟨label,_,rfl⟩ := List.mem_map.mp there
    exact ⟨label.2,rfl⟩
  ordered := by
    apply List.pairwise_map.mpr
    apply List.pairwise_map.mpr
    exact labels.increasing.imp Std.le_of_lt

theorem Obtained.isSound {s : Selector} (obtained : Obtained s) : s.IsSound := by
  cases obtained with
  | parsed read => exact (canonical_of_parse read).isSound
  | ofLabels labels => exact isSound_ofLabels labels
  | everything => exact ⟨List.forall_mem_nil _,.nil⟩

end ObjectMetrics.Selector
