import ObjectMetrics.Text.Split
import ObjectMetrics.Text.Utf8
/-!
Percent-encoding as URLs use it, and the form encoding of query parameters, in which a plus sign
stands for a space. A percent sign that two hexadecimal digits do not follow stands for itself. A query
is form-encoded parameters between ampersands; empty pieces count for nothing, so an ampersand may also
stand at the beginning or the end.
-/
namespace ObjectMetrics.Text

def hexDigitValue (b : UInt8) : Option Nat :=
  let n := b.toNat
  if 0x30 ≤ n && n ≤ 0x39 then some (n - 0x30)
  else if 0x41 ≤ n && n ≤ 0x46 then some (n - 0x41 + 10)
  else if 0x61 ≤ n && n ≤ 0x66 then some (n - 0x61 + 10)
  else none

/-- Replace each percent sign and its two digits by the byte they name. -/
def percentDecode : Bytes → Bytes
  | [] => []
  | b :: h :: l :: rest =>
    if b = 0x25 then
      match hexDigitValue h, hexDigitValue l with
      | some hi, some lo => UInt8.ofNat (hi * 16 + lo) :: percentDecode rest
      | _, _ => b :: percentDecode (h :: l :: rest)
    else b :: percentDecode (h :: l :: rest)
  | b :: rest => b :: percentDecode rest

def decodePath (s : String) : Option String :=
  (decodeUtf8 (percentDecode (encodeUtf8 s))).map String.ofList

def decodeForm (s : String) : String :=
  let spaced := (encodeUtf8 s).map fun b => if b = 0x2B then 0x20 else b
  String.ofList (decodeUtf8Lossy (percentDecode spaced))

def isFormSafe (b : UInt8) : Bool :=
  let n := b.toNat
  (0x30 ≤ n && n ≤ 0x39) || (0x41 ≤ n && n ≤ 0x5A) || (0x61 ≤ n && n ≤ 0x7A) ||
    n == 0x2A || n == 0x2D || n == 0x2E || n == 0x5F

def capitalHexDigit (n : Nat) : Char :=
  Char.ofNat (if n < 10 then 0x30 + n else 0x41 + (n - 10))

def encodeFormByte (b : UInt8) : List Char :=
  if isFormSafe b then [Char.ofNat b.toNat]
  else if b = 0x20 then ['+']
  else ['%', capitalHexDigit (b.toNat / 16), capitalHexDigit (b.toNat % 16)]

def encodeForm (s : String) : String :=
  String.ofList ((encodeUtf8 s).flatMap encodeFormByte)

/-- One parameter of a query; without an equals sign its value is empty. -/
def queryParameter (piece : String) : String × String :=
  match cut? '=' piece with
  | some (name, value) => (decodeForm name, decodeForm value)
  | none => (decodeForm piece, "")

def queryParameters (query : String) : List (String × String) :=
  ((split '&' query).filter (· ≠ "")).map queryParameter

def queryValues (query name : String) : List String :=
  ((queryParameters query).filter fun p => p.1 = name).map Prod.snd

end ObjectMetrics.Text
