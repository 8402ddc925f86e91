import ObjectMetrics.Order.Keyed
import ObjectMetrics.Settings.Path
import ObjectMetrics.Settings.Value
/-!
Trees of settings: values, lists and tables. Placing something at a path builds the lists and tables
that lead there, and replaces what is of another form on the way. Lists keep only the items that were
placed, so a list may have gaps; one with gaps is no list of names.
-/
namespace ObjectMetrics

inductive SettingTree where
  | value (v : SettingValue)
  /-- A list of a size, with the items that were placed under their indexes. -/
  | list (size : Nat) (items : List (Nat × SettingTree))
  | table (members : List (String × SettingTree))

namespace SettingTree

def ofItems (items : List SettingTree) : SettingTree :=
  list items.length (items.zipIdx.map fun (item, i) => (i, item))

def items : SettingTree → Nat × List (Nat × SettingTree)
  | list size items => (size, items)
  | _ => (0, [])

def members : SettingTree → List (String × SettingTree)
  | table members => members
  | _ => []

def member? (t : SettingTree) (name : String) : Option SettingTree :=
  (t.members.find? fun m => m.1 = name).map Prod.snd

def maxItems : Nat := Nat.pow 2 56

/-- Where an index points in a list of a size, which may be behind its end but not before its start. -/
def position? (size : Nat) (index : Int) : Option Nat :=
  if 0 ≤ index then if index.toNat < maxItems then some index.toNat else none
  else if (-index).toNat ≤ size then some (size - (-index).toNat)
  else none

/-- Place something at the end of a row of steps, if all of its indexes point somewhere. -/
def placeAt? (x : SettingTree) : List PathStep → Option SettingTree → Option SettingTree
  | [], _ => some x
  | .member name :: steps, t =>
    (placeAt? x steps (t.bind (member? · name))).map fun y =>
      table (Order.put Prod.fst (name, y) ((t.map members).getD []))
  | .item index :: steps, t =>
    let (size, placed) := (t.map items).getD (0, [])
    (position? size index).bind fun i =>
      (placeAt? x steps ((placed.find? fun item => item.1 = i).map Prod.snd)).map fun y =>
        list (max size (i + 1)) (Order.put Prod.fst (i, y) placed)

def place? (t : SettingTree) (path : SettingPath) (x : SettingTree) : Option SettingTree :=
  placeAt? x (.member path.name :: path.steps) (some t)

def toText? : SettingTree → Option String
  | value v => some v.toText
  | _ => none

def toFlag? : SettingTree → Option Bool
  | value v => v.toFlag?
  | _ => none

def toCount? : SettingTree → Option UInt64
  | value v => v.toCount?
  | _ => none

def toCount16? : SettingTree → Option UInt16
  | value v => v.toCount16?
  | _ => none

def toNames? : SettingTree → Option (List String)
  | list size items =>
    if items.length = size then
      (List.range size).mapM fun i => (items.find? fun item => item.1 = i).bind (toText? ·.2)
    else none
  | _ => none

end SettingTree
end ObjectMetrics
