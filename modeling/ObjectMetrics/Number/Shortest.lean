import ObjectMetrics.Number.Decimal
/-!
The shortest decimal digits that read back as a given binary64 value, and their two layouts:
always positional, as settings show a number, or with an exponent where JSON texts have one.
-/
namespace ObjectMetrics.Number

/-- The exact value of a positive finite number, as a numerator and a denominator. -/
def exactRatio (x : Float) : Nat × Nat :=
  let bits := x.toBits.toNat % Nat.pow 2 63
  let field := bits / Nat.pow 2 52
  let fraction := bits % Nat.pow 2 52
  let (m, e) := if field = 0 then (fraction, 1) else (fraction + Nat.pow 2 52, field)
  if 1075 ≤ e then (m * Nat.pow 2 (e - 1075), 1) else (m, Nat.pow 2 (1075 - e))

/-- The exponent `e` with `10 ^ e ≤ num / den < 10 ^ (e + 1)`, searched upwards from `e`. -/
def leadingExponent (num den : Nat) : Nat → Int → Int
  | 0, e => e
  | fuel + 1, e =>
    let next := e + 1
    let reached :=
      if 0 ≤ next then decide (Nat.pow 10 next.toNat * den ≤ num)
      else decide (den ≤ num * Nat.pow 10 (-next).toNat)
    if reached then leadingExponent num den fuel next else e

/-- The two neighbours of `num / den` among the multiples of `10 ^ k`, nearer one first; of two
equally near the upper one comes first. -/
def gridNeighbours (num den : Nat) (k : Int) : List Nat :=
  let (n, d) := if 0 ≤ k then (num, den * Nat.pow 10 k.toNat) else (num * Nat.pow 10 (-k).toNat, den)
  let low := n / d
  if 2 * (n % d) < d then [low, low + 1] else [low + 1, low]

/-- The fewest digits, and the exponent of the last, that read back as `x`; `x` is positive and
finite. -/
def shortest (x : Float) : Nat × Int :=
  let (num, den) := exactRatio x
  let lead := leadingExponent num den 700 (-340)
  let found := (List.range 17).findSome? fun (p : Nat) =>
    let k := lead - p
    ((gridNeighbours num den k).find? fun d =>
      (Decimal.toFloat ⟨false, d, k⟩).toBits == x.toBits).map fun d => (d, k)
  found.getD (num, 0)

/-- Digits without trailing zeros, and the exponent of the last digit left. -/
def dropZeros : Nat → Nat × Int → Nat × Int
  | 0, p => p
  | fuel + 1, (d, k) => if d % 10 = 0 && d ≠ 0 then dropZeros fuel (d / 10, k + 1) else (d, k)

def zeros (n : Nat) : List Char := List.replicate n '0'

def positional (digits : List Char) (k : Int) : List Char :=
  if 0 ≤ k then digits ++ zeros k.toNat
  else
    let places := (-k).toNat
    if places < digits.length then
      digits.take (digits.length - places) ++ '.' :: digits.drop (digits.length - places)
    else '0' :: '.' :: zeros (places - digits.length) ++ digits

/-- One digit, a point before further digits, and the exponent of the first digit. -/
def scientific (digits : List Char) (k : Int) : List Char :=
  let e := k + digits.length - 1
  let tail := digits.drop 1
  digits.take 1 ++ (if tail.isEmpty then [] else '.' :: tail) ++ 'e' :: (toString e).toList

def withSign (x : Float) (cs : List Char) : String :=
  String.ofList (if x.toBits.toNat < Nat.pow 2 63 then cs else '-' :: cs)

def shortestDigits (x : Float) : List Char × Int :=
  let (d, k) := dropZeros 20 (shortest x.abs)
  (Nat.toDigits 10 d, k)

/-- The text of a setting's number: positional, without a point where none is needed. -/
def plainText (x : Float) : String :=
  if x.isNaN then "NaN"
  else if x.isInf then withSign x "inf".toList
  else if x == 0 then withSign x ['0']
  else
    let (digits, k) := shortestDigits x
    withSign x (positional digits k)

/-- The text of a JSON number: positional with at least one place after the point when the leading
digit stands between `10 ^ (-5)` and `10 ^ 15`, and scientific otherwise. -/
def jsonText (x : Float) : String :=
  if x == 0 then withSign x "0.0".toList
  else
    let (digits, k) := shortestDigits x
    let lead := k + digits.length - 1
    if -5 ≤ lead && lead ≤ 15 then
      let text := positional digits k
      withSign x (if text.contains '.' then text else text ++ ['.', '0'])
    else withSign x (scientific digits k)

end ObjectMetrics.Number
