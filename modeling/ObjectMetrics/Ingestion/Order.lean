import ObjectMetrics.Adapter.Metrics
import ObjectMetrics.Ingestion.Quantity
import ObjectMetrics.Ingestion.Target
import ObjectMetrics.Json.Reading
import ObjectMetrics.Text.Quoted
/-!
Orders to write a value: what a path, a body and a text of labels ask for together. An order is read
completely before anything is looked up, in this order: the path, the body, the labels.
-/
namespace ObjectMetrics

inductive Refusal where
  | noTarget (path : String)
  | notJson
  /-- The body is a JSON value that is neither a number nor a string. -/
  | otherJson
  | notQuantity (raw : String)
  | fault (f : Fault)
deriving DecidableEq

namespace Refusal

private def badBody (detail : String) : String :=
  "body must be a JSON number or quantity string: " ++ detail

/-- Flaws of the JSON grammar are not told apart. -/
def message : Refusal → String
  | noTarget path => "no write route matches " ++ Text.quote path
  | notJson => badBody "<json error>"
  | otherJson => badBody "data did not match any variant of untagged enum WriteBody"
  | notQuantity raw => Text.quote raw ++ " is not a valid quantity"
  | fault f => f.message

def kind : Refusal → String
  | noTarget _ => FaultClass.text .notFound
  | notJson | otherJson | notQuantity _ => "bad_request"
  | fault f => f.faultClass.text

end Refusal

structure WriteOrder where
  target : WriteTarget
  value : Float
  labels : LabelSet
deriving DecidableEq

namespace WriteOrder

/-- The value in a body: a JSON number, or a quantity in a JSON string. Another JSON value is refused
as such even if more text follows it. -/
def readValue (body : Text.Bytes) : Except Refusal Float :=
  match Json.readFirst body with
  | none => .error .notJson
  | some (.number n, more) => if more then .error .notJson else .ok n.toFloat
  | some (.text raw, more) =>
    if more then .error .notJson
    else match Quantity.read? raw with
      | some value => .ok value
      | none => .error (.notQuantity raw)
  | some _ => .error .otherJson

/-- The labels of an order; none given and empty text are both the empty set. -/
def readLabels (raw : Option String) : Except Refusal LabelSet :=
  match raw with
  | none => .ok .empty
  | some raw => if raw = "" then .ok .empty else (LabelSet.parse raw).mapError .fault

def read (path : String) (labels : Option String) (body : Text.Bytes) :
    Except Refusal WriteOrder := do
  let target ← match WriteTarget.ofPath? path with
    | some target => .ok target
    | none => .error (.noTarget path)
  let value ← readValue body
  let labels ← readLabels labels
  return { target, value, labels }

end WriteOrder

namespace Adapter

def execute (a : Adapter) (order : WriteOrder) : Except Refusal MetricRecord × Adapter :=
  match a.write order.target.request order.target.key order.value order.labels with
  | (.error fault, a) => (.error (.fault fault), a)
  | (.ok r, a) => (.ok r, { a with telemetry := a.telemetry.log [.written a.settings.name r] })

end Adapter
end ObjectMetrics
