import ObjectMetrics.Json.Token
/-!
Reading JSON values from tokens. The reader keeps a stack of the lists and objects that are still
open, takes one token at a time, and bounds the height of the stack.
-/
namespace ObjectMetrics.Json
open Text

/-- A list or object still being read; parts read so far are kept last first. -/
inductive Frame where
  | list (elements : List Json)
  | object (members : List (String × Json)) (key : String)

/-- What the reader waits for. -/
inductive Expecting where
  | value
  | firstElement
  | firstKey (members : List (String × Json))
  | key (members : List (String × Json))
  | colon (members : List (String × Json)) (key : String)
  | separator (value : Json)

def maxDepth : Nat := 127

def readTokens : Expecting → List Frame → List Token → Option (Json × List Token)
  | .separator v, [], ts => some (v, ts)
  | .separator v, .list vs :: fs, .comma :: ts => readTokens .value (.list (v :: vs) :: fs) ts
  | .separator v, .list vs :: fs, .closeList :: ts =>
    readTokens (.separator (.list (v :: vs).reverse)) fs ts
  | .separator v, .object ms k :: fs, .comma :: ts => readTokens (.key ((k, v) :: ms)) fs ts
  | .separator v, .object ms k :: fs, .closeObject :: ts =>
    readTokens (.separator (.object ((k, v) :: ms).reverse)) fs ts
  | .firstElement, .list _ :: fs, .closeList :: ts => readTokens (.separator (.list [])) fs ts
  | .firstKey _, fs, .closeObject :: ts => readTokens (.separator (.object [])) fs ts
  | .firstKey ms, fs, .text k :: ts => readTokens (.colon ms k) fs ts
  | .key ms, fs, .text k :: ts => readTokens (.colon ms k) fs ts
  | .colon ms k, fs, .colon :: ts => readTokens .value (.object ms k :: fs) ts
  | .value, fs, t :: ts | .firstElement, fs, t :: ts =>
    match t with
    | .atom v => readTokens (.separator v) fs ts
    | .text s => readTokens (.separator (.text s)) fs ts
    | .openList =>
      if fs.length < maxDepth then readTokens .firstElement (.list [] :: fs) ts else none
    | .openObject => if fs.length < maxDepth then readTokens (.firstKey []) fs ts else none
    | _ => none
  | _, _, _ => none

/-- Read one value at the head of a text, and tell whether anything but blanks follows it. -/
def readFirst (bs : Bytes) : Option (Json × Bool) :=
  (readTokens .value [] (tokens bs)).map fun (v, rest) => (v, !rest.isEmpty)

def read (bs : Bytes) : Option Json :=
  match readFirst bs with
  | some (v, false) => some v
  | _ => none

end ObjectMetrics.Json
