import ObjectMetrics.Text.Split
/-!
Which texts may be label keys and label values. A name has 1 to 63 bytes, all of them ASCII letters,
digits or `-`, `_`, `.`, with a letter or digit at both ends. A key is a name, or a lower-case domain
and a name with a slash between them. A value is a name or nothing.
-/
namespace ObjectMetrics.Label

inductive NameFlaw where
  | length (name : String)
  | characters (name : String)
  | domain (key : String)
deriving DecidableEq, Repr

def maxNameLength : Nat := 63

def maxDomainLength : Nat := 253

def isNameChar (c : Char) : Bool := c.isAlphanum || c = '-' || c = '_' || c = '.'

def isDomainChar (c : Char) : Bool := c.isLower || c.isDigit || c = '-'

/-- Letters, digits, `-`, `_` and `.`, with a letter or digit first and last. -/
def isNameText (cs : List Char) : Bool :=
  cs.head?.any Char.isAlphanum && cs.getLast?.any Char.isAlphanum && cs.all isNameChar

def isDomainPart (cs : List Char) : Bool :=
  !cs.isEmpty && cs.all isDomainChar && cs.head? != some '-' && cs.getLast? != some '-'

def isDomain (s : String) : Bool :=
  s ≠ "" && s.utf8ByteSize ≤ maxDomainLength && (Text.splitAll '.' s.toList).all isDomainPart

def checkName (s : String) : Except NameFlaw Unit :=
  if s = "" || maxNameLength < s.utf8ByteSize then .error (.length s)
  else if isNameText s.toList then .ok ()
  else .error (.characters s)

def checkKey (key : String) : Except NameFlaw Unit :=
  match Text.cut? '/' key with
  | some (domain, name) => if isDomain domain then checkName name else .error (.domain key)
  | none => checkName key

def checkValue (value : String) : Except NameFlaw Unit :=
  if value = "" then .ok () else checkName value

end ObjectMetrics.Label
