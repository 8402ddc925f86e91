import ObjectMetrics.Number.Digits
import ObjectMetrics.Text.Split
/-!
Names of settings as paths. A path is a name followed by steps, each to a member of a table, `.name`,
or to an item of a list, `[index]`. A text that is no path is a name as a whole.
-/
namespace ObjectMetrics

inductive PathStep where
  | member (name : String)
  /-- An index below zero counts from the end of the list. -/
  | item (index : Int)
deriving DecidableEq, Repr

structure SettingPath where
  name : String
  steps : List PathStep
deriving DecidableEq, Repr

namespace SettingPath

def isNameChar (c : Char) : Bool := c.isAlphanum || c == ' ' || c == '_' || c == '-'

def isGap (c : Char) : Bool := c == ' ' || c == '\t'

def readIndex? (cs : List Char) : Option Int :=
  let inner := ((cs.dropWhile isGap).reverse.dropWhile isGap).reverse
  if inner.head? = some '+' then none else Number.readInt64? (String.ofList inner)

def readSteps? (text : List Char) : Option (List PathStep) :=
  match text with
  | [] => some []
  | '.' :: cs =>
    let name := cs.takeWhile isNameChar
    if name.isEmpty then none
    else (readSteps? (cs.dropWhile isNameChar)).map (.member (String.ofList name) :: ·)
  | '[' :: cs =>
    match _ : Text.splitFirst? ']' cs with
    | none => none
    | some (inner, rest) =>
      match readIndex? inner with
      | none => none
      | some index => (readSteps? rest).map (.item index :: ·)
  | _ => none
termination_by text.length
decreasing_by
  · have := (List.dropWhile_sublist isNameChar (l := cs)).length_le
    simp only [List.length_cons]
    omega
  · rename_i cut
    obtain ⟨rfl, -⟩ := Text.splitFirst?_eq_some cut
    simp only [List.length_cons, List.length_append]
    omega

def ofName (text : String) : SettingPath :=
  let name := text.toList.takeWhile isNameChar
  match readSteps? (text.toList.dropWhile isNameChar) with
  | none => ⟨text, []⟩
  | some steps => if name.isEmpty then ⟨text, []⟩ else ⟨String.ofList name, steps⟩

end SettingPath
end ObjectMetrics
