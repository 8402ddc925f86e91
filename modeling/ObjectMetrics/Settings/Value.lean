import ObjectMetrics.Number.Shortest
import ObjectMetrics.Text.Case
/-!
Values of settings. A text counts as a flag, else as an integer of 64 bits, else as a binary64
number, else as text; what a setting then makes of it depends on the kind of setting.
-/
namespace ObjectMetrics

inductive SettingValue where
  | flag (b : Bool)
  | integer (n : Int)
  | real (x : Float)
  | text (s : String)
deriving DecidableEq

namespace SettingValue

def namedReal? (word : String) : Option Float :=
  if word = "inf" || word = "infinity" then some (1 / 0)
  else if word = "nan" then some (0 / 0)
  else none

def readReal? (raw : String) : Option Float :=
  match Number.Decimal.read? raw.toList with
  | some d => some d.toFloat
  | none =>
    let (negative, word) := Number.takeSign raw.toList
    (namedReal? (Text.lower (String.ofList word))).map fun x => if negative then -x else x

def ofText (raw : String) : SettingValue :=
  if Text.lower raw = "true" then .flag true
  else if Text.lower raw = "false" then .flag false
  else match Number.readInt64? raw with
    | some n => .integer n
    | none =>
      match readReal? raw with
      | some x => .real x
      | none => .text raw

def switch? (word : String) : Option Bool :=
  if word = "on" || word = "yes" then some true
  else if word = "off" || word = "no" then some false
  else none

/-- A value as a flag: numbers are true unless they are zero. -/
def toFlag? : SettingValue → Option Bool
  | flag b => some b
  | integer n => some (n ≠ 0)
  | real x => some (x != 0)
  | text s => switch? (Text.lower s)

/-- A value as a count of 64 bits: numbers are rounded and cut to the range, flags are 0 and 1. -/
def toCount? : SettingValue → Option UInt64
  | flag b => some (if b then 1 else 0)
  | integer n => if 0 ≤ n then some (UInt64.ofNat n.toNat) else none
  | real x => some x.round.toUInt64
  | text s => (switch? (Text.lower s)).map fun b => if b then 1 else 0

/-- A value as a count of 16 bits, for which larger counts are refused. -/
def toCount16? (v : SettingValue) : Option UInt16 :=
  v.toCount?.bind fun n => if n.toNat < 65536 then some n.toUInt16 else none

def toText : SettingValue → String
  | flag b => if b then "true" else "false"
  | integer n => toString n
  | real x => Number.plainText x
  | text s => s

end SettingValue
end ObjectMetrics
