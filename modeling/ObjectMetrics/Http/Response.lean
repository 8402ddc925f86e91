import ObjectMetrics.Ingestion.Order
/-!
Responses of the HTTP interface, with the status that each kind of answer has.
-/
namespace ObjectMetrics

inductive ResponseBody where
  | empty
  | text (s : String)
  | refusal (r : Refusal)
  | record (r : MetricRecord)
  | health (b : HealthBoard)
  | readiness (b : HealthBoard)
deriving DecidableEq

structure HttpResponse where
  status : Nat
  body : ResponseBody
deriving DecidableEq

def FaultClass.status : FaultClass → Nat
  | notFound => 404
  | invalidSelector => 400
  | ambiguous => 409
  | transient => 503

def Refusal.status : Refusal → Nat
  | noTarget _ => 404
  | notJson | otherJson | notQuantity _ => 400
  | fault f => f.faultClass.status

namespace HttpResponse

def notFound : HttpResponse := ⟨404, .empty⟩

def methodNotAllowed : HttpResponse := ⟨405, .empty⟩

def undecodablePath : HttpResponse := ⟨400, .text "Invalid URL: Invalid UTF-8 in `path`"⟩

def repeatedLabels : HttpResponse :=
  ⟨400, .text "Failed to deserialize query string: duplicate field `labels`"⟩

def oversizedBody : HttpResponse :=
  ⟨413, .text "Failed to buffer the request body: length limit exceeded"⟩

def ofRefusal (r : Refusal) : HttpResponse := ⟨r.status, .refusal r⟩

def ofRecord (r : MetricRecord) : HttpResponse := ⟨200, .record r⟩

/-- An adapter that still works answers well, even from an old catalog. -/
def ofHealth (b : HealthBoard) : HttpResponse :=
  ⟨if b.status.isOperational then 200 else 503, .health b⟩

def ofReadiness (b : HealthBoard) : HttpResponse := ⟨if b.isReady then 200 else 503, .readiness b⟩

def headOnly (r : HttpResponse) : HttpResponse := { r with body := .empty }

end HttpResponse
end ObjectMetrics
