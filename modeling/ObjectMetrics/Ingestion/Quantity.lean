import ObjectMetrics.Number.Decimal
import ObjectMetrics.Text.Split
/-!
Quantities: decimal literals, or decimals without exponent that a suffix scales. A literal is read
first, so that `1E5` has an exponent while `1E` has a suffix. No quantity is infinite.
-/
namespace ObjectMetrics.Quantity
open Number

def suffixes : List (List Char × Float) :=
  [(['K', 'i'], 1024), (['M', 'i'], 1048576), (['G', 'i'], 1073741824),
    (['T', 'i'], 1099511627776), (['P', 'i'], 1125899906842624),
    (['E', 'i'], 1152921504606846976), (['n'], 1e-9), (['u'], 1e-6), (['m'], 1e-3), (['k'], 1e3),
    (['M'], 1e6), (['G'], 1e9), (['T'], 1e12), (['P'], 1e15), (['E'], 1e18)]

def finite? (x : Float) : Option Float := if x.isFinite then some x else none

def stem? (suffix cs : List Char) : Option (List Char) :=
  if suffix.isSuffixOf cs then some (cs.take (cs.length - suffix.length)) else none

def isExponentMark (c : Char) : Bool := c = 'e' || c = 'E'

def readPlain? (cs : List Char) : Option Decimal :=
  if cs.any isExponentMark then none else Decimal.read? cs

def scaled? (cs : List Char) (suffix : List Char × Float) : Option Float := do
  let stem ← stem? suffix.1 cs
  let d ← readPlain? stem
  finite? (d.toFloat * suffix.2)

def ofChars? (cs : List Char) : Option Float :=
  match Decimal.read? cs with
  | some d => finite? d.toFloat
  | none => suffixes.findSome? (scaled? cs)

def read? (raw : String) : Option Float := ofChars? (Text.stripBoth Text.isBlank raw.toList)

end ObjectMetrics.Quantity
