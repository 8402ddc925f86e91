import ObjectMetrics.Json.Value
import ObjectMetrics.Text.Utf8
/-!
JSON numbers. The digits of a number that is no 64-bit integer are kept in 64 bits as far as they
fit, digits after that count as zeros, and the kept digits are scaled by a power of ten in binary64
arithmetic. A number too large for binary64 is refused.
-/
namespace ObjectMetrics.JsonNumber
open Text

def isDigitByte (b : UInt8) : Bool := 0x30 ≤ b.toNat && b.toNat ≤ 0x39

def digitValue (b : UInt8) : Nat := b.toNat - 0x30

/-- The digits at the head of a text, and what follows them. -/
def takeDigits (bs : Bytes) : Bytes × Bytes := (bs.takeWhile isDigitByte, bs.dropWhile isDigitByte)

/-- Append digits to a number of 64 bits as long as it fits; the rest are the digits left out. -/
def keepDigits : Nat → Bytes → Nat × Bytes
  | n, [] => (n, [])
  | n, b :: bs =>
    let next := n * 10 + digitValue b
    if next < Nat.pow 2 64 then keepDigits next bs else (n, b :: bs)

def powerOfTen (k : Nat) : Float := Float.ofScientific 1 false k

def scale (n : Nat) (e : Int) : Option Float :=
  let x := Float.ofNat n
  if n = 0 then some x
  else if 0 ≤ e then
    if e ≤ 308 then
      let y := x * powerOfTen e.toNat
      if y.isInf then none else some y
    else none
  else
    let k := (-e).toNat
    if k ≤ 308 then some (x / powerOfTen k)
    else if k ≤ 616 then some (x / powerOfTen 308 / powerOfTen (k - 308))
    else some 0

structure Literal where
  negative : Bool
  whole : Bytes
  fraction : Option Bytes
  exponent : Option Int

def ofLiteral (l : Literal) : Option JsonNumber :=
  let (n, left) := keepDigits 0 l.whole
  let real (n : Nat) (e : Int) : Option JsonNumber :=
    (scale n e).map fun x => .real (if l.negative then -x else x)
  match l.fraction, l.exponent with
  | none, none =>
    if left.isEmpty && !l.negative then some (.integer n)
    else if left.isEmpty && n ≠ 0 && n ≤ Nat.pow 2 63 then some (.integer (-n))
    else real n left.length
  | fraction, exponent =>
    let digits := fraction.getD []
    let (m, dropped) := keepDigits n digits
    let places : Int := digits.length - dropped.length
    real m (exponent.getD 0 + left.length - places)

def readWhole (bs : Bytes) : Option (Bytes × Bytes) :=
  match takeDigits bs with
  | ([], _) => none
  | (d :: ds, rest) => if d = 0x30 && !ds.isEmpty then none else some (d :: ds, rest)

def readDigits (bs : Bytes) : Option (Bytes × Bytes) :=
  match takeDigits bs with
  | ([], _) => none
  | parts => some parts

def digitsNumber (bs : Bytes) : Nat := bs.foldl (fun n b => n * 10 + digitValue b) 0

def readFraction (bs : Bytes) : Option (Option Bytes × Bytes) :=
  match bs with
  | 0x2E :: rest => (readDigits rest).map fun (ds, rest) => (some ds, rest)
  | _ => some (none, bs)

/-- The sign of an exponent; the flag tells a minus sign. -/
def readSign : Bytes → Bool × Bytes
  | 0x2D :: rest => (true, rest)
  | 0x2B :: rest => (false, rest)
  | rest => (false, rest)

def readExponent (bs : Bytes) : Option (Option Int × Bytes) :=
  match bs with
  | b :: rest =>
    if b = 0x65 || b = 0x45 then
      (readDigits (readSign rest).2).map fun (ds, after) =>
        let n : Int := digitsNumber ds
        (some (if (readSign rest).1 then -n else n), after)
    else some (none, bs)
  | [] => some (none, [])

def readMinus : Bytes → Bool × Bytes
  | 0x2D :: rest => (true, rest)
  | rest => (false, rest)

def readLiteral (bs : Bytes) : Option (Literal × Bytes) :=
  let (negative, bs) := readMinus bs
  match readWhole bs with
  | none => none
  | some (whole, bs) =>
    match readFraction bs with
    | none => none
    | some (fraction, bs) =>
      (readExponent bs).map fun (exponent, rest) => ({ negative, whole, fraction, exponent }, rest)

def read (bs : Bytes) : Option (JsonNumber × Bytes) :=
  match readLiteral bs with
  | none => none
  | some (literal, rest) => (ofLiteral literal).map (·, rest)

theorem takeDigits_length (bs : Bytes) :
    (takeDigits bs).1.length + (takeDigits bs).2.length = bs.length := by
  rw [← List.length_append]
  exact congrArg List.length List.takeWhile_append_dropWhile

theorem readDigits_length {bs ds rest : Bytes} (h : readDigits bs = some (ds, rest)) :
    rest.length < bs.length := by
  have sum := takeDigits_length bs
  unfold readDigits at h
  split at h
  · simp at h
  · rename_i nonempty
    simp only [Option.some.injEq] at h
    rw [h] at sum
    cases ds with
    | nil => exact absurd h (nonempty rest)
    | cons d ds => simp only [List.length_cons] at sum; omega

theorem readWhole_length {bs ds rest : Bytes} (h : readWhole bs = some (ds, rest)) :
    rest.length < bs.length := by
  have sum := takeDigits_length bs
  unfold readWhole at h
  split at h
  · simp at h
  · rename_i eq
    split at h <;> simp only [Option.some.injEq, Prod.mk.injEq, reduceCtorEq] at h
    rw [eq] at sum
    simp only [List.length_cons] at sum
    rw [← h.2]
    omega

theorem readFraction_length {bs rest : Bytes} {ds : Option Bytes}
    (h : readFraction bs = some (ds, rest)) : rest.length ≤ bs.length := by
  unfold readFraction at h
  split at h
  · simp only [Option.map_eq_some_iff, Prod.exists, Prod.mk.injEq] at h
    obtain ⟨_, _, read, _, rfl⟩ := h
    exact Nat.le_succ_of_le (Nat.le_of_lt (readDigits_length read))
  · simp only [Option.some.injEq, Prod.mk.injEq] at h
    exact h.2 ▸ Nat.le_refl _

theorem readSign_length (bs : Bytes) : (readSign bs).2.length ≤ bs.length := by
  fun_cases readSign bs <;> simp

theorem readExponent_length {bs rest : Bytes} {e : Option Int}
    (h : readExponent bs = some (e, rest)) : rest.length ≤ bs.length := by
  unfold readExponent at h
  split at h
  · rename_i b tail
    split at h
    · simp only [Option.map_eq_some_iff, Prod.exists, Prod.mk.injEq] at h
      obtain ⟨_, _, read, _, rfl⟩ := h
      have := readDigits_length read
      have := readSign_length tail
      simp only [List.length_cons]
      omega
    · simp only [Option.some.injEq, Prod.mk.injEq] at h
      exact h.2 ▸ Nat.le_refl _
  · simp only [Option.some.injEq, Prod.mk.injEq] at h
    exact h.2 ▸ Nat.le_refl _

theorem readMinus_length (bs : Bytes) : (readMinus bs).2.length ≤ bs.length := by
  fun_cases readMinus bs <;> simp

theorem readLiteral_length {bs rest : Bytes} {l : Literal}
    (h : readLiteral bs = some (l, rest)) : rest.length < bs.length := by
  have minus := readMinus_length bs
  simp only [readLiteral] at h
  split at h
  · simp at h
  · rename_i whole
    split at h
    · simp at h
    · rename_i fraction
      simp only [Option.map_eq_some_iff, Prod.exists, Prod.mk.injEq] at h
      obtain ⟨_, _, exponent, _, rfl⟩ := h
      have := readWhole_length whole
      have := readFraction_length fraction
      have := readExponent_length exponent
      omega

theorem read_length {bs rest : Bytes} {n : JsonNumber} (h : read bs = some (n, rest)) :
    rest.length < bs.length := by
  unfold read at h
  split at h
  · simp at h
  · rename_i literal
    simp only [Option.map_eq_some_iff, Prod.mk.injEq] at h
    obtain ⟨_, _, _, rfl⟩ := h
    exact readLiteral_length literal

end ObjectMetrics.JsonNumber
