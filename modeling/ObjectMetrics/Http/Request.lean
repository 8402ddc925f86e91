import ObjectMetrics.Text.Split
import ObjectMetrics.Text.Utf8
/-!
Requests to the adapter's HTTP interface. A URI is a path, a query after the first question mark, and
a fragment that never counts. In front of the path there may be a scheme and an authority, which do
not count either. Path and query stay encoded here, because routes are told apart by their encoded
form.
-/
namespace ObjectMetrics

structure HttpRequest where
  method : String
  uri : String
  body : Text.Bytes
deriving DecidableEq

namespace HttpRequest

def isSchemeChar (c : Char) : Bool :=
  c.isAlphanum || c == '+' || c == '-' || c == '.' || c == '~'

def afterScheme? : List Char → Option (List Char)
  | ':' :: '/' :: '/' :: rest => some rest
  | c :: rest => if isSchemeChar c then afterScheme? rest else none
  | [] => none

def isAuthorityChar (c : Char) : Bool := !(c == '/' || c == '?' || c == '#')

def fromPath (uri : String) : String :=
  match afterScheme? uri.toList with
  | some rest => String.ofList (rest.dropWhile isAuthorityChar)
  | none => uri

def resource (r : HttpRequest) : String := Text.before '#' (fromPath r.uri)

def path (r : HttpRequest) : String := Text.before '?' r.resource

def query (r : HttpRequest) : String := Text.after '?' r.resource

end HttpRequest
end ObjectMetrics
