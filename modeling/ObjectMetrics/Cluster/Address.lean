import ObjectMetrics.Text.Split
/-!
Addresses of the cluster's API server: the roots under which group versions are served, and the
characters that a request target may carry.
-/
namespace ObjectMetrics.Cluster

/-- Where a version of a group is served; the core group has a root of its own. -/
def groupRoot (group version : String) : String :=
  if group = "" then "/api/" ++ version else "/apis/" ++ group ++ "/" ++ version

def isPathChar (c : Char) : Bool :=
  let n := c.toNat
  n == 0x21 || n == 0x22 || (0x24 ≤ n && n ≤ 0x3B) || n == 0x3D || (0x40 ≤ n && n ≤ 0x5F) ||
    (0x61 ≤ n && n ≤ 0x7E)

def isQueryChar (c : Char) : Bool :=
  let n := c.toNat
  n == 0x21 || (0x24 ≤ n && n ≤ 0x3B) || n == 0x3D || (0x3F ≤ n && n ≤ 0x7E)

/-- A request target as the server gets to see it. An empty query is not the same as none. -/
structure Address where
  path : String
  query : Option String
deriving DecidableEq, Repr

namespace Address

def maxLength : Nat := 65534

def isValid (a : Address) : Bool :=
  a.path.toList.all isPathChar && a.query.all fun query => query.toList.all isQueryChar

/-- The address that a text names, if its length and its characters allow it to be sent. A fragment is
not sent. -/
def ofText? (s : String) : Option Address :=
  let sent := Text.before '#' s
  let a : Address := ⟨Text.before '?' sent, (Text.cut? '?' sent).map Prod.snd⟩
  if s.utf8ByteSize ≤ maxLength && a.isValid then some a else none

/-- Why a text names no address. Its length is looked at before its characters. -/
def refusal (s : String) : String :=
  if s.utf8ByteSize ≤ maxLength then "invalid uri character" else "uri too long"

def text (a : Address) : String :=
  match a.query with
  | none => a.path
  | some query => a.path ++ "?" ++ query

end Address
end ObjectMetrics.Cluster
