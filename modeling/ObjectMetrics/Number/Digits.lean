/-!
Decimal digits, signs, and integers that fit in 64 bits. Only ASCII digits count.
-/
namespace ObjectMetrics.Number

def digitsValue (cs : List Char) : Nat :=
  cs.foldl (fun n c => 10 * n + (c.toNat - '0'.toNat)) 0

/-- Split off an optional sign; the flag tells a minus sign. -/
def takeSign : List Char → Bool × List Char
  | '-' :: cs => (true, cs)
  | '+' :: cs => (false, cs)
  | cs => (false, cs)

def allDigits (cs : List Char) : Bool := !cs.isEmpty && cs.all Char.isDigit

def readInteger? (cs : List Char) : Option Int :=
  let (negative, digits) := takeSign cs
  if allDigits digits then
    let n : Int := digitsValue digits
    some (if negative then -n else n)
  else none

def IsInt64 (n : Int) : Prop := -9223372036854775808 ≤ n ∧ n ≤ 9223372036854775807

instance (n : Int) : Decidable (IsInt64 n) := inferInstanceAs (Decidable (_ ∧ _))

def readInt64? (s : String) : Option Int :=
  match readInteger? s.toList with
  | some n => if IsInt64 n then some n else none
  | none => none

end ObjectMetrics.Number
