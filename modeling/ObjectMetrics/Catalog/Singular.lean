import ObjectMetrics.Text.Case
/-!
Singular forms of plural resource names. Irregular words come from a table; the rules for regular
ones look at the end of the word only and leave a word alone that does not end like a plural.
-/
namespace ObjectMetrics

/-- The singular of a regular plural. Both words are spelled backwards, as the rules read them. -/
def singularBackwards : List Char → List Char
  | 's' :: 'e' :: 'i' :: c :: stem => 'y' :: c :: stem
  | 's' :: 'e' :: 's' :: 's' :: stem => 's' :: 's' :: stem
  | 's' :: 'e' :: 'x' :: stem => 'x' :: stem
  | 's' :: 'e' :: 'z' :: stem => 'z' :: stem
  | 's' :: 'e' :: 'h' :: 'c' :: stem => 'h' :: 'c' :: stem
  | 's' :: 'e' :: 'h' :: 's' :: stem => 'h' :: 's' :: stem
  | 's' :: 's' :: stem => 's' :: 's' :: stem
  | 's' :: c :: stem => c :: stem
  | word => word

def regularSingular (word : String) : String :=
  String.ofList (singularBackwards word.toList.reverse).reverse

/-- How to make singulars: a table of irregular plurals, newest entry first, before the rules. -/
structure Inflection where
  irregular : List (String × String)
deriving DecidableEq, Repr

namespace Inflection

def regular : Inflection := ⟨[]⟩

def add (inflection : Inflection) (plural singular : String) : Inflection :=
  ⟨(Text.lower plural, Text.lower singular) :: inflection.irregular⟩

def ofList (entries : List (String × String)) : Inflection :=
  entries.foldl (fun inflection entry => inflection.add entry.1 entry.2) regular

def builtin : Inflection :=
  ofList [("endpoints", "endpoints"), ("componentstatuses", "componentstatus")]

def singular (inflection : Inflection) (word : String) : String :=
  let word := Text.lower word
  match inflection.irregular.find? fun entry => entry.1 = word with
  | some entry => entry.2
  | none => regularSingular word

end Inflection
end ObjectMetrics
