/-!
JSON values. A number without point and exponent that fits in 64 bits is an integer; every other
number is a binary64 value.
-/
namespace ObjectMetrics

inductive JsonNumber where
  | integer (n : Int)
  | real (x : Float)
deriving DecidableEq

def JsonNumber.toFloat : JsonNumber → Float
  | integer n => Float.ofInt n
  | real x => x

/-- A JSON value; the members of an object keep their order and may repeat a name. -/
inductive Json where
  | null
  | bool (b : Bool)
  | number (n : JsonNumber)
  | text (s : String)
  | list (elements : List Json)
  | object (members : List (String × Json))

namespace Json

def int (n : Int) : Json := .number (.integer n)

def nat (n : Nat) : Json := .number (.integer n)

/-- A binary64 value as JSON knows it: it has no infinities and no value for undefined results. -/
def float (x : Float) : Json := if x.isFinite then .number (.real x) else .null

def member? (name : String) : Json → Option Json
  | object members => (members.reverse.find? fun m => m.1 = name).map Prod.snd
  | _ => none

end Json
end ObjectMetrics
