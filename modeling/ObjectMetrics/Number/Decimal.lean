import ObjectMetrics.Number.Digits
/-!
Decimal literals and their nearest binary64 value. A literal has digits on at least one side of
an optional point; with an exponent it is in scientific form. Reading rounds once, to even on ties,
and overflows to infinity.
-/
namespace ObjectMetrics.Number

structure Decimal where
  negative : Bool
  digits : Nat
  exponent : Int
deriving DecidableEq, Repr

namespace Decimal

/-- How many powers of ten lie safely outside the binary64 range, on either side. -/
def farOut : Nat := 400

/-- An exponent cut to where further powers of ten change the nearest binary64 value no more. Digits
count with less than one power of ten for each of their bits. -/
def cutExponent (d : Decimal) : Int :=
  max (-(farOut + d.digits.log2 + 1 : Nat)) (min d.exponent farOut)

/-- The binary64 value nearest to a decimal; a negative zero keeps its sign. -/
def toFloat (d : Decimal) : Float :=
  let e := d.cutExponent
  let magnitude :=
    if e < 0 then Float.ofScientific d.digits true (-e).toNat
    else Float.ofScientific d.digits false e.toNat
  if d.negative then -magnitude else magnitude

def takePoint (cs : List Char) : List Char × List Char × List Char :=
  let whole := cs.takeWhile Char.isDigit
  match cs.dropWhile Char.isDigit with
  | '.' :: rest => (whole, rest.takeWhile Char.isDigit, rest.dropWhile Char.isDigit)
  | rest => (whole, [], rest)

/-- The exponent that ends a literal; none is written as nothing. -/
def readExponent? : List Char → Option Int
  | [] => some 0
  | c :: cs => if c = 'e' || c = 'E' then readInteger? cs else none

def read? (cs : List Char) : Option Decimal :=
  let (negative, unsigned) := takeSign cs
  let (whole, fraction, rest) := takePoint unsigned
  if whole.isEmpty && fraction.isEmpty then none
  else
    (readExponent? rest).map fun e =>
      { negative, digits := digitsValue (whole ++ fraction), exponent := e - fraction.length }

end Decimal
end ObjectMetrics.Number
