import Mathlib.Data.List.Induction
import ObjectMetrics.Number.Digits

/-! Decimal numerals and the integers that they denote. Reading an integer finds the one that its
text denotes, and there is one unless the text is no numeral. -/
namespace ObjectMetrics.Number

/-- Rows of decimal digits, most significant first, with the numbers that they denote. -/
inductive Numeral : List Char → Nat → Prop
  | digit (c : Char) (isDigit : c.isDigit) : Numeral [c] (c.toNat - '0'.toNat)
  | append {cs : List Char} {n : Nat} (c : Char) (isDigit : c.isDigit) (front : Numeral cs n) :
      Numeral (cs ++ [c]) (10 * n + (c.toNat - '0'.toNat))

inductive SignedNumeral : List Char → Int → Prop
  | plain {cs : List Char} {n : Nat} (numeral : Numeral cs n) : SignedNumeral cs n
  | plus {cs : List Char} {n : Nat} (numeral : Numeral cs n) : SignedNumeral ('+' :: cs) n
  | minus {cs : List Char} {n : Nat} (numeral : Numeral cs n) : SignedNumeral ('-' :: cs) (-n)

private theorem digitsValue_append (cs : List Char) (c : Char) :
    digitsValue (cs ++ [c]) = 10 * digitsValue cs + (c.toNat - '0'.toNat) := by
  simp [digitsValue]

theorem numeral_iff {cs : List Char} {n : Nat} :
    Numeral cs n ↔ allDigits cs ∧ digitsValue cs = n := by
  constructor
  · intro numeral
    induction numeral with
    | digit c isDigit => simp [allDigits,digitsValue,isDigit]
    | append c isDigit front ih =>
      obtain ⟨digits,value⟩ := ih
      have each := (Bool.and_eq_true_iff.mp digits).2
      exact ⟨by simp [allDigits,isDigit,each],by rw [digitsValue_append,value]⟩
  · rintro ⟨digits,rfl⟩
    induction cs using List.reverseRecOn with
    | nil => simp [allDigits] at digits
    | append_singleton cs c ih =>
      obtain ⟨each,last⟩ : (∀ d ∈ cs, d.isDigit) ∧ c.isDigit := by
        simpa [allDigits,or_imp,forall_and] using digits
      rw [digitsValue_append]
      cases cs with
      | nil => simpa [digitsValue] using Numeral.digit c last
      | cons d cs => exact .append c last (ih (by simpa [allDigits] using each))

private theorem takeSign_of_digits {cs : List Char} (digits : allDigits cs) :
    takeSign cs = (false,cs) := by
  unfold takeSign
  split <;> simp_all [allDigits]

theorem readInteger?_eq_some_iff {cs : List Char} {n : Int} :
    readInteger? cs = some n ↔ SignedNumeral cs n := by
  constructor
  · intro read
    unfold readInteger? takeSign at read
    split at read
    rename_i eq
    split at read <;> simp only [Option.some.injEq,reduceCtorEq] at read
    rename_i digits
    have numeral := numeral_iff.mpr ⟨digits,rfl⟩
    subst read
    split at eq <;> obtain ⟨rfl,rfl⟩ := Prod.mk.inj eq
    · exact .minus numeral
    · exact .plus numeral
    · exact .plain numeral
  · intro signed
    cases signed with
    | plain numeral =>
      obtain ⟨digits,rfl⟩ := numeral_iff.mp numeral
      simp [readInteger?,takeSign_of_digits digits,digits]
    | plus numeral =>
      obtain ⟨digits,rfl⟩ := numeral_iff.mp numeral
      simp [readInteger?,takeSign,digits]
    | minus numeral =>
      obtain ⟨digits,rfl⟩ := numeral_iff.mp numeral
      simp [readInteger?,takeSign,digits]

theorem readInt64?_eq_some_iff {s : String} {n : Int} :
    readInt64? s = some n ↔ SignedNumeral s.toList n ∧ IsInt64 n := by
  rw [← readInteger?_eq_some_iff]
  unfold readInt64?
  cases readInteger? s.toList with
  | none => simp
  | some m =>
    simp only [Option.ite_none_right_eq_some,Option.some.injEq]
    constructor
    · rintro ⟨small,rfl⟩
      exact ⟨rfl,small⟩
    · rintro ⟨rfl,small⟩
      exact ⟨small,rfl⟩

theorem numeral_zeros {cs : List Char} {n : Nat} (numeral : Numeral cs n) (count : Nat) :
    Numeral (List.replicate count '0' ++ cs) n := by
  induction count with
  | zero => exact numeral
  | succ count ih =>
    obtain ⟨digits,value⟩ := numeral_iff.mp ih
    have each := (Bool.and_eq_true_iff.mp digits).2
    refine numeral_iff.mpr ⟨?_,value⟩
    rw [List.replicate_succ,List.cons_append,allDigits,List.all_cons,each]
    rfl

theorem signedNumeral_unique {cs : List Char} {n m : Int} (first : SignedNumeral cs n)
    (second : SignedNumeral cs m) : n = m := by
  rw [← readInteger?_eq_some_iff] at first second
  exact Option.some.inj (first.symm.trans second)

end ObjectMetrics.Number
