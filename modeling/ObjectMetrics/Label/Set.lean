import ObjectMetrics.Order.Sorted
/-!
Label sets: finite maps from text to text, kept in increasing order of their keys. The order makes
equal sets equal values, and their texts too.
-/
namespace ObjectMetrics

structure LabelSet where
  entries : List (String × String)
  increasing : Order.Increasing Prod.fst entries
deriving DecidableEq

namespace LabelSet

def empty : LabelSet := ⟨[], Order.increasing_nil _⟩

instance : Inhabited LabelSet := ⟨empty⟩

def get? (labels : LabelSet) (key : String) : Option String :=
  (labels.entries.find? fun e => e.1 = key).map Prod.snd

def insert (labels : LabelSet) (key value : String) : LabelSet :=
  ⟨Order.place Prod.fst (key, value) labels.entries, Order.increasing_place labels.increasing⟩

/-- Labels from pairs; of two pairs with one key the later counts. -/
def ofList (pairs : List (String × String)) : LabelSet :=
  pairs.foldl (fun labels pair => labels.insert pair.1 pair.2) empty

def size (labels : LabelSet) : Nat := labels.entries.length

def isEmpty (labels : LabelSet) : Bool := labels.entries.isEmpty

def text (labels : LabelSet) : String :=
  ",".intercalate (labels.entries.map fun (key, value) => key ++ "=" ++ value)

theorem get?_insert (labels : LabelSet) (key value k : String) :
    (labels.insert key value).get? k = if key = k then some value else labels.get? k := by
  simp only [get?, insert, Order.find?_place]
  split <;> rfl

end LabelSet
end ObjectMetrics
