import ObjectMetrics.Proofs.Selector.Clauses

/-! Reading clauses as a cursor does: an operator is chosen by the next token and its values are read
after that, and a token is looked at before it is taken. Such reading could break down where the token
taken is not the one that was seen; it never does, and it reads the clauses of the requirements. -/
namespace ObjectMetrics.Order

variable {α β κ : Type} [LT κ] [DecidableLT κ]

theorem insertStable_map (key : β → κ) (f : α → β) (x : α) (xs : List α) :
    insertStable key (f x) (xs.map f) = (insertStable (fun y => key (f y)) x xs).map f := by
  fun_induction insertStable (fun y => key (f y)) x xs with
  | case1 => rfl
  | case2 y ys before ih => rw [List.map_cons,insertStable,if_pos before,ih,List.map_cons]
  | case3 y ys notBefore => rw [List.map_cons,insertStable,if_neg notBefore]; rfl

theorem sortStable_map (key : β → κ) (f : α → β) (xs : List α) :
    sortStable key (xs.map f) = (sortStable (fun x => key (f x)) xs).map f := by
  induction xs with
  | nil => rfl
  | cons x xs ih => rw [List.map_cons,sortStable,ih,insertStable_map,sortStable]

end ObjectMetrics.Order

namespace ObjectMetrics.Label

def next : List Token → Option Token × List Token
  | [] => (none,[])
  | t :: ts => (some t,ts)

/-- Read a value by a look at the next token before it is taken; nothing if the token that is taken is
not the word that was seen. -/
def takeValue (ts : List Token) : Option (Except Flaw (String × List Token)) :=
  match ts.head? with
  | some (.word _) =>
    match next ts with
    | (some (.word w),rest) => some ((checked checkValue w).map (·,rest))
    | _ => none
  | none | some .comma | some .closeParen => some (.ok ("",ts))
  | some t => some (.error (.valueExpected t))

theorem takeValue_eq (ts : List Token) : takeValue ts = some (readValue ts) := by
  cases ts with
  | nil => rfl
  | cons t ts => cases t <;> rfl

theorem readValue_of_takeValue {ts : List Token} {read : Except Flaw (String × List Token)}
    (found : takeValue ts = some read) : readValue ts = read := by
  rwa [takeValue_eq,Option.some.injEq] at found

def takeMembers (ts : List Token) : Option (Except Flaw (List String × List Token)) :=
  match found : takeValue ts with
  | none => none
  | some (.error flaw) => some (.error flaw)
  | some (.ok (_,[])) => some (.error .setNotClosed)
  | some (.ok (v,.comma :: rest)) =>
    have : rest.length < ts.length := readValue_length (readValue_of_takeValue found)
    (takeMembers rest).map (Except.map fun (vs,rest) => (v :: vs,rest))
  | some (.ok (v,.closeParen :: rest)) => some (.ok ([v],rest))
  | some (.ok (_,t :: _)) => some (.error (.setNotContinued t))
termination_by ts.length

def takeSet (ts : List Token) : Option (Except Flaw (List String × List Token)) :=
  match next ts with
  | (some .openParen,rest) =>
    (takeMembers rest).map fun read => read.bind fun (vs,rest) =>
      if vs.all (· = "") then .error .setOfNothing else .ok (Order.distinct id vs,rest)
  | _ => some (.error .setExpected)

def takeBound (ts : List Token) : Option (Except Flaw (String × List Token)) :=
  (takeValue ts).map fun read => read.bind fun (v,rest) =>
    if (Number.readInt64? v).isSome then .ok (v,rest) else .error (.notAnInteger v)

def Operator.ofToken? : Token → Option Operator
  | .equals | .doubleEquals => some .equals
  | .notEquals => some .notEquals
  | .greater => some .greaterThan
  | .less => some .lessThan
  | .word w => if w = "in" then some .oneOf else if w = "notin" then some .noneOf else none
  | _ => none

def Operator.takeValues (op : Operator) (ts : List Token) :
    Option (Except Flaw (List String × List Token)) :=
  match op with
  | .oneOf | .noneOf => takeSet ts
  | .greaterThan | .lessThan => (takeBound ts).map (Except.map fun (v,rest) => ([v],rest))
  | .equals | .notEquals | .present | .absent =>
    (takeValue ts).map (Except.map fun (v,rest) => ([v],rest))

/-- Read what stands behind a key: first the operator, by the next token, and then its values. -/
def takeCondition (key : String) : List Token → Option (Except Flaw (Clause × List Token))
  | [] => some (.ok (⟨key,.present,[]⟩,[]))
  | .comma :: ts => some (.ok (⟨key,.present,[]⟩,.comma :: ts))
  | t :: ts =>
    match Operator.ofToken? t with
    | none => some (.error (.operatorExpected key t))
    | some op => (op.takeValues ts).map (Except.map fun (vs,rest) => (⟨key,op,vs⟩,rest))

def takeClause (ts : List Token) : Option (Except Flaw (Clause × List Token)) :=
  match ts with
  | .bang :: ts => some ((readKey ts).map fun (key,rest) => (⟨key,.absent,[]⟩,rest))
  | ts =>
    match readKey ts with
    | .error flaw => some (.error flaw)
    | .ok (key,rest) => takeCondition key rest

/-- The members of a set are values, each with a comma or the closing parenthesis behind it. -/
theorem readMembers_eq (ts : List Token) : readMembers ts =
    match readValue ts with
    | .error flaw => .error flaw
    | .ok (_,[]) => .error .setNotClosed
    | .ok (v,.comma :: rest) => (readMembers rest).map fun (vs,rest) => (v :: vs,rest)
    | .ok (v,.closeParen :: rest) => .ok ([v],rest)
    | .ok (_,t :: _) => .error (.setNotContinued t) := by
  rcases ts with _ | ⟨t,ts⟩
  · rfl
  · cases t with
    | word w =>
      rw [readMembers.eq_def,readValue]
      dsimp only
      cases checked checkValue w with
      | error flaw => rfl
      | ok v =>
        rcases ts with _ | ⟨t,ts⟩
        · rfl
        · cases t <;> rfl
    | comma => rw [readMembers]; rfl
    | _ => rfl

theorem takeMembers_eq (ts : List Token) : takeMembers ts = some (readMembers ts) := by
  fun_induction takeMembers ts with
  | case1 ts found => simp [takeValue_eq] at found
  | case2 ts flaw found => rw [readMembers_eq,readValue_of_takeValue found]
  | case3 ts v found => rw [readMembers_eq,readValue_of_takeValue found]
  | case4 ts v rest found _ ih =>
    rw [readMembers_eq,readValue_of_takeValue found,ih]
    rfl
  | case5 ts v rest found => rw [readMembers_eq,readValue_of_takeValue found]
  | case6 ts v t rest more closing found =>
    rw [readMembers_eq,readValue_of_takeValue found]
    cases t with
    | comma => exact (more rfl).elim
    | closeParen => exact (closing rfl).elim
    | _ => rfl

theorem takeSet_eq (ts : List Token) : takeSet ts = some (readSet ts) := by
  rcases ts with _ | ⟨t,ts⟩
  · rfl
  · cases t with
    | openParen =>
      rw [takeSet,next]
      dsimp only
      rw [takeMembers_eq,readSet]
      cases readMembers ts <;> rfl
    | _ => rfl

theorem takeBound_eq (ts : List Token) : takeBound ts = some (readBound ts) := by
  rw [takeBound,takeValue_eq,readBound]
  cases readValue ts <;> rfl

section Operators

variable {key : String} {t : Token} {op : Operator} {ts : List Token}

theorem takeValues_eq (stands : Operator.ofToken? t = some op) :
    (op.takeValues ts).map (Except.map fun (vs,rest) => (Clause.mk key op vs,rest)) =
      some ((readCondition key (t :: ts)).map fun (c,rest) => (Requirement.clause ⟨key,c⟩,rest)) := by
  cases t with
  | word w =>
    rw [Operator.ofToken?] at stands
    split at stands
    · rename_i sign
      obtain rfl := Option.some.inj stands
      rw [Operator.takeValues,takeSet_eq,readCondition,if_pos sign]
      cases readSet ts <;> rfl
    · rename_i other
      split at stands
      · rename_i sign
        obtain rfl := Option.some.inj stands
        rw [Operator.takeValues,takeSet_eq,readCondition,if_neg other,if_pos sign]
        cases readSet ts <;> rfl
      · contradiction
  | equals | doubleEquals | notEquals =>
    obtain rfl := Option.some.inj stands
    rw [Operator.takeValues,takeValue_eq,readCondition]
    cases readValue ts <;> rfl
  | greater | less =>
    obtain rfl := Option.some.inj stands
    rw [Operator.takeValues,takeBound_eq,readCondition]
    cases readBound ts <;> rfl
  | _ => contradiction

theorem readCondition_of_no_operator (stands : Operator.ofToken? t = none) (more : t ≠ .comma) :
    readCondition key (t :: ts) = .error (.operatorExpected key t) := by
  cases t with
  | word w =>
    rw [Operator.ofToken?] at stands
    split at stands
    · contradiction
    · rename_i other
      split at stands
      · contradiction
      · rename_i another
        rw [readCondition,if_neg other,if_neg another]
  | comma => contradiction
  | bang | openParen | closeParen => rfl
  | _ => contradiction

theorem takeCondition_eq (key : String) (ts : List Token) : takeCondition key ts =
    some ((readCondition key ts).map fun (c,rest) => (Requirement.clause ⟨key,c⟩,rest)) := by
  fun_cases takeCondition key ts with
  | case1 => rfl
  | case2 ts => rfl
  | case3 t ts more stands => rw [readCondition_of_no_operator stands more]; rfl
  | case4 t ts more op stands => exact takeValues_eq stands

end Operators

/-- Reading a clause never breaks down, and reads what a requirement comes apart into. -/
theorem takeClause_eq (ts : List Token) :
    takeClause ts = some ((readRequirement ts).map fun (r,rest) => (r.clause,rest)) := by
  rcases ts with _ | ⟨t,ts⟩
  · rfl
  · cases t with
    | bang =>
      rw [takeClause,readRequirement]
      cases readKey ts <;> rfl
    | word w =>
      simp only [takeClause,readRequirement,readKey]
      cases checked checkKey w with
      | error flaw => rfl
      | ok key =>
        dsimp only [Except.map]
        rw [takeCondition_eq]
        cases readCondition key ts <;> rfl
    | _ => rfl

theorem readRequirement_of_takeClause {ts rest : List Token} {c : Clause}
    (found : takeClause ts = some (.ok (c,rest))) :
    ∃ r, readRequirement ts = .ok (r,rest) ∧ r.clause = c := by
  rw [takeClause_eq,Option.some.injEq,map_eq_ok] at found
  obtain ⟨⟨r,_⟩,read,same⟩ := found
  obtain ⟨rfl,rfl⟩ := Prod.mk.inj same
  exact ⟨r,read,rfl⟩

def takeClauses (ts : List Token) : Option (Except Flaw (List Clause)) :=
  match found : takeClause ts with
  | none => none
  | some (.error flaw) => some (.error flaw)
  | some (.ok (c,[])) => some (.ok [c])
  | some (.ok (_,[.comma])) => some (.error .commaAtEnd)
  | some (.ok (c,.comma :: t :: more)) =>
    have : more.length + 1 < ts.length := by
      obtain ⟨r,read,_⟩ := readRequirement_of_takeClause found
      exact Nat.lt_of_succ_lt (readRequirement_length read)
    (takeClauses (t :: more)).map (Except.map (c :: ·))
  | some (.ok (_,t :: _)) => some (.error (.commaExpected t))
termination_by ts.length

theorem readRequirements_eq (ts : List Token) : readRequirements ts =
    match readRequirement ts with
    | .error flaw => .error flaw
    | .ok (r,[]) => .ok [r]
    | .ok (_,[.comma]) => .error .commaAtEnd
    | .ok (r,.comma :: t :: more) => (readRequirements (t :: more)).map (r :: ·)
    | .ok (_,t :: _) => .error (.commaExpected t) := by
  rw [readRequirements.eq_def]
  split <;> simp_all

theorem takeClauses_eq (ts : List Token) :
    takeClauses ts = some ((readRequirements ts).map (List.map Requirement.clause)) := by
  fun_induction takeClauses ts with
  | case1 ts found => simp [takeClause_eq] at found
  | case2 ts flaw found =>
    rw [takeClause_eq,Option.some.injEq] at found
    rw [readRequirements_eq]
    cases read : readRequirement ts <;> simp_all [Except.map]
  | case3 ts c found =>
    obtain ⟨r,read,rfl⟩ := readRequirement_of_takeClause found
    rw [readRequirements_eq,read]
    rfl
  | case4 ts c found =>
    obtain ⟨r,read,rfl⟩ := readRequirement_of_takeClause found
    rw [readRequirements_eq,read]
    rfl
  | case5 ts c t more found _ ih =>
    obtain ⟨r,read,rfl⟩ := readRequirement_of_takeClause found
    rw [readRequirements_eq,read,ih]
    dsimp only
    cases readRequirements (t :: more) <;> rfl
  | case6 ts c t more other another found =>
    obtain ⟨r,read,rfl⟩ := readRequirement_of_takeClause found
    rw [readRequirements_eq,read]
    cases t with
    | comma =>
      rcases more with _ | ⟨t,more⟩
      · exact (other rfl rfl).elim
      · exact (another t more rfl rfl).elim
    | _ => rfl

end ObjectMetrics.Label

namespace ObjectMetrics.Selector
open Label

/-- Read the clauses of a text, in the order of their keys; nothing if reading breaks down. -/
def readClauses? (raw : String) : Option (Except Flaw (List Clause)) :=
  match scan raw.toList with
  | [] => some (.ok [])
  | ts => (takeClauses ts).map (Except.map (Order.sortStable Clause.key))

theorem readClauses?_eq (raw : String) : readClauses? raw = some ((read raw).map clauses) := by
  rw [readClauses?,read,requirementsOf]
  cases scan raw.toList with
  | nil => rfl
  | cons t ts =>
    dsimp only
    rw [takeClauses_eq]
    cases readRequirements (t :: ts) with
    | error flaw => rfl
    | ok rs =>
      have sorted := Order.sortStable_map Clause.key Requirement.clause rs
      exact congrArg (fun cs => some (Except.ok cs)) sorted

/-- Selectors never break down. The clauses of a selector that was read, or that asks for given labels,
or for nothing, fit and stand in the order of their keys; clauses that fit have all values that
printing them and entering their labels takes; and reading clauses finds every word that it saw. What
comes of each of these is what comes of the selector itself. -/
theorem obtained_isSound :
    (∀ s, Obtained s → s.IsSound) ∧
    (∀ cs : List Clause, (∀ c ∈ cs, c.Fits) → (clausesText? cs).isSome ∧
      ∀ labels, (enterLabels? labels cs).isSome) ∧
    (∀ s : Selector, clausesText? s.clauses = some s.text) ∧
    (∀ raw, readClauses? raw = some ((read raw).map clauses)) ∧
    ∀ raw s, read raw = .ok s →
      enterLabels? .empty s.clauses = some ((LabelSet.read raw).mapError Flaw.message) := by
  refine ⟨fun s => Obtained.isSound,fun cs fit => ⟨isSome_clausesText? fit,isSome_enterLabels? fit⟩,
    fun s => clausesText?_eq s.requirements,readClauses?_eq,fun raw s found => ?_⟩
  rw [LabelSet.read,found]
  exact enterLabels?_eq s.requirements .empty

theorem obtained_isSound_terms_of_all_kinds :
    let s : Selector := ⟨[⟨"0",.greaterThan "7"⟩,⟨"b",.oneOf ["","a"]⟩,⟨"b",.notEquals ""⟩,
      ⟨"in",.noneOf ["x"]⟩,⟨"k",.absent⟩]⟩
    let labels : Selector := ⟨[⟨"a",.equals ""⟩,⟨"b",.equals "2"⟩]⟩
    parse "in notin (x), b in (,a,,a), !k, b!=, 0>7" = .ok s ∧ s.IsSound ∧
    (clausesText? s.clauses).isSome ∧ (enterLabels? .empty s.clauses).isSome ∧
    read "b==2,a=" = .ok labels ∧
    enterLabels? .empty labels.clauses = some (.ok (.ofList [("a",""),("b","2")])) := by
  intro s labels
  have parsed : parse "in notin (x), b in (,a,,a), !k, b!=, 0>7" = .ok s := by decide +kernel
  have found : read "b==2,a=" = .ok labels := by decide +kernel
  have entered : LabelSet.read "b==2,a=" = .ok (.ofList [("a",""),("b","2")]) := by decide +kernel
  obtain ⟨sound,whole,_,_,agree⟩ := obtained_isSound
  have fit := (sound s (.parsed parsed)).fit
  refine ⟨parsed,sound s (.parsed parsed),(whole s.clauses fit).1,(whole s.clauses fit).2 .empty,found,?_⟩
  rw [agree _ labels found,entered]
  rfl

end ObjectMetrics.Selector
