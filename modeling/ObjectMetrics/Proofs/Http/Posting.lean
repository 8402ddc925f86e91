import Mathlib.Data.List.Basic
import ObjectMetrics.Http.Router
import ObjectMetrics.Proofs.Adapter.Operation

/-! Posted writes. A request that makes an order has it carried out as a whole, or refused without a
trace in the records and in what is told about them; a request that makes none changes nothing. -/
namespace ObjectMetrics

def LogEvent.isWritten : LogEvent → Bool
  | written .. => true
  | _ => false

def Telemetry.written (t : Telemetry) : List LogEvent := t.events.filter LogEvent.isWritten

/-- The part of an adapter that keeps writes and what is told about them. -/
structure Books where
  store : Store
  writes : Nat
  stored : Nat
  events : List LogEvent

def Books.enter (books : Books) (name : String) (r : MetricRecord) : Books :=
  ⟨books.store.upsert r,books.writes + 1,(books.store.upsert r).size,books.events ++ [.written name r]⟩

def Adapter.books (a : Adapter) : Books :=
  ⟨a.store,a.telemetry.metricWrites,a.telemetry.storedRecords,a.telemetry.written⟩

/-- Whether a posted request makes an order. Its path must lead to the writes and can be decoded, it
gives labels once at most, and its body is not too large; then path, body and labels are read. -/
def HttpRequest.Orders (r : HttpRequest) (ingestion : Bool) (order : WriteOrder) : Prop :=
  ∃ path decoded, Route.ofPath? ingestion r.path = some (.write path) ∧
    Text.decodePath path = some decoded ∧ (Text.queryValues r.query "labels").length ≤ 1 ∧
    r.body.length ≤ Adapter.maxBodySize ∧ WriteTarget.ofPath? decoded = some order.target ∧
    WriteOrder.readValue r.body = .ok order.value ∧
    WriteOrder.readLabels (Text.queryValues r.query "labels").head? = .ok order.labels

theorem WriteOrder.read_eq_ok_iff {path : String} {labels : Option String} {body : Text.Bytes}
    {order : WriteOrder} : read path labels body = .ok order ↔
      WriteTarget.ofPath? path = some order.target ∧ readValue body = .ok order.value ∧
        readLabels labels = .ok order.labels := by
  obtain ⟨target,value,set⟩ := order
  unfold read
  cases WriteTarget.ofPath? path <;> cases readValue body <;> cases readLabels labels <;>
    simp [bind,Except.bind,pure,Except.pure]

theorem Refusal.status_ne_ok (refusal : Refusal) : refusal.status ≠ 200 := by
  cases refusal with
  | fault f =>
    rw [status]
    cases f.faultClass <;> decide
  | _ => simp [status]

namespace Adapter

theorem untouched_of_books {a b : Adapter} (same : b.books = a.books) : b.store = a.store ∧
    b.telemetry.metricWrites = a.telemetry.metricWrites ∧
    b.telemetry.storedRecords = a.telemetry.storedRecords ∧
    b.telemetry.written = a.telemetry.written :=
  Books.mk.inj same

theorem entered_of_books {a b : Adapter} {name : String} {r : MetricRecord}
    (entered : b.books = a.books.enter name r) : b.store = a.store.upsert r ∧
    b.telemetry.metricWrites = a.telemetry.metricWrites + 1 ∧
    b.telemetry.storedRecords = b.store.size ∧
    b.telemetry.written = a.telemetry.written ++ [.written name r] := by
  obtain ⟨store,writes,stored,events⟩ := Books.mk.inj entered
  have kept : b.store = a.store.upsert r := store
  refine ⟨kept,writes,?_,events⟩
  rw [kept]
  exact stored

theorem books_regenerate (a : Adapter) : a.regenerate.2.books = a.books := by
  cases listed : a.discovery.listing <;>
    simp [regenerate,noteListing,books,Telemetry.written,Registry.publish,listed,
      Telemetry.reportFailure,Telemetry.log,LogEvent.isWritten,List.filter_append]

def answer (a : Adapter) (order : WriteOrder) : HttpResponse × Adapter :=
  match a.execute order with
  | (.error refusal,a) => (.ofRefusal refusal,a)
  | (.ok record,a) => (.ofRecord record,a)

theorem answer_of_refused {a : Adapter} {order : WriteOrder} {fault : Fault}
    (refused : (a.normalize order.target.request).1 = .error fault) :
    a.answer order = (.ofRefusal (.fault fault),(a.normalize order.target.request).2) := by
  unfold answer execute write
  rcases normalized : a.normalize order.target.request with ⟨other | n,b⟩
  · obtain rfl : other = fault := by simpa [normalized] using refused
    rfl
  · simp [normalized] at refused

theorem books_written (a : Adapter) (r : MetricRecord) :
    books { a.record r with
      telemetry := (a.telemetry.countWrite (a.record r).store.size).log
        [.written a.settings.name r] } = a.books.enter a.settings.name r := by
  simp [books,Books.enter,Telemetry.written,Telemetry.log,Telemetry.countWrite,record,
    LogEvent.isWritten]

theorem answer_of_understood {a : Adapter} {order : WriteOrder} {n : Normalized}
    (known : (a.normalize order.target.request).1 = .ok n) :
    let r : MetricRecord := ⟨n.identity,order.target.key,order.value,order.labels,a.clock⟩
    (a.answer order).1 = .ofRecord r ∧
    (a.answer order).2.normalizeNow order.target.request = .ok n ∧
    (a.answer order).2.books = a.books.enter a.settings.name r := by
  have clock : (a.normalize order.target.request).2.clock = a.clock :=
    view_normalize Adapter.clock rfl order.target.request
  have settings : (a.normalize order.target.request).2.settings = a.settings :=
    view_normalize Adapter.settings rfl order.target.request
  have books : (a.normalize order.target.request).2.books = a.books :=
    view_normalize Adapter.books a.books_regenerate order.target.request
  have again := normalizeNow_of_normalize known
  unfold answer execute write
  rcases normalized : a.normalize order.target.request with ⟨fault | other,b⟩
  · simp [normalized] at known
  · rw [normalized] at clock settings books again
    obtain rfl : other = n := by simpa [normalized] using known
    rw [← clock,← settings,← books]
    exact ⟨rfl,again,b.books_written _⟩

theorem serve_of_orders {a : Adapter} {r : HttpRequest} (posted : r.method = "POST")
    {order : WriteOrder} (orders : r.Orders a.settings.ingestion order) :
    a.serve r = a.answer order := by
  obtain ⟨path,decoded,routed,plain,once,small,target,value,labels⟩ := orders
  have read := WriteOrder.read_eq_ok_iff.mpr ⟨target,value,labels⟩
  have led : a.serve r = a.serveWrite path r := by
    unfold serve
    rw [routed]
    exact if_pos posted
  rw [led]
  unfold serveWrite
  rw [plain]
  have fits : ¬ maxBodySize < r.body.length := Nat.not_lt.mpr small
  generalize Text.queryValues r.query "labels" = given at read once
  match given with
  | [] | [_] =>
    dsimp only
    rw [if_neg fits,read]
    rfl

/-- Every way out before an order is read leaves the adapter as it was. -/
theorem serve_of_no_order {a : Adapter} {r : HttpRequest} (posted : r.method = "POST")
    (orderless : ∀ order, ¬ r.Orders a.settings.ingestion order) :
    ∃ response, response.status ≠ 200 ∧ a.serve r = (response,a) := by
  unfold serve
  split
  · exact ⟨.notFound,by decide,rfl⟩
  · rename_i path routed
    rw [if_pos posted]
    unfold serveWrite
    split
    · exact ⟨.undecodablePath,by decide,rfl⟩
    · exact ⟨.repeatedLabels,by decide,rfl⟩
    · rename_i decoded plain once
      split
      · exact ⟨.oversizedBody,by decide,rfl⟩
      · rename_i small
        split
        · rename_i refusal _
          exact ⟨.ofRefusal refusal,refusal.status_ne_ok,rfl⟩
        · rename_i order read
          have few : (Text.queryValues r.query "labels").length ≤ 1 := by
            match given : Text.queryValues r.query "labels" with
            | [] | [_] => simp
            | _ :: _ :: _ => exact (once _ _ _ given).elim
          obtain ⟨target,value,labels⟩ := WriteOrder.read_eq_ok_iff.mp read
          exact absurd ⟨path,decoded,routed,plain,few,Nat.not_lt.mp small,target,value,labels⟩
            (orderless order)
  · rw [if_neg (by simp [posted]),if_neg (by simp [posted])]
    exact ⟨.methodNotAllowed,by decide,rfl⟩

theorem serve_of_understood {a : Adapter} {r : HttpRequest} (posted : r.method = "POST")
    {order : WriteOrder} {n : Normalized} (orders : r.Orders a.settings.ingestion order)
    (known : (a.normalize order.target.request).1 = .ok n) :
    let record : MetricRecord := ⟨n.identity,order.target.key,order.value,order.labels,a.clock⟩
    (a.serve r).1 = .ofRecord record ∧
    (a.serve r).2.normalizeNow order.target.request = .ok n ∧
    (a.serve r).2.books = a.books.enter a.settings.name record := by
  rw [serve_of_orders posted orders]
  exact answer_of_understood known

/-- A posted request is refused with the books as they were, unless it makes an order whose resource is
understood. -/
theorem serve_post_cases {a : Adapter} {r : HttpRequest} (posted : r.method = "POST") :
    ((a.serve r).1.status ≠ 200 ∧ (a.serve r).2.books = a.books) ∨
      ∃ order n, r.Orders a.settings.ingestion order ∧
        (a.normalize order.target.request).1 = .ok n := by
  by_cases makes : ∃ order, r.Orders a.settings.ingestion order
  · obtain ⟨order,orders⟩ := makes
    cases known : (a.normalize order.target.request).1 with
    | error fault =>
      left
      rw [serve_of_orders posted orders,answer_of_refused known]
      exact ⟨(Refusal.fault fault).status_ne_ok,view_normalize books a.books_regenerate _⟩
    | ok n => exact .inr ⟨order,n,orders,known⟩
  · obtain ⟨response,bad,served⟩ := serve_of_no_order posted (not_exists.mp makes)
    rw [served]
    exact .inl ⟨bad,rfl⟩

/-- A posted request is carried out as a whole or not at all. Unless it is answered well the records,
the count of writes, the gauge and the log of writes are as before, and if it makes no order then
everything is. It is answered well exactly if it makes an order whose resource is understood in the
end. Then the record of the understood identity and of the ordered object is set, and no other; the
record is the answer; and it is counted, measured and logged once. -/
theorem serve_post_all_or_nothing (a : Adapter) (uri : String) (body : Text.Bytes) :
    let r : HttpRequest := ⟨"POST",uri,body⟩
    let response := (a.serve r).1
    let b := (a.serve r).2
    let request (t : WriteTarget) : MetricRequest :=
      ⟨.ofText t.resource,t.ns ≠ "" || t.resource = "namespaces",t.metric⟩
    (response.status ≠ 200 → b.store = a.store ∧
      b.telemetry.metricWrites = a.telemetry.metricWrites ∧
      b.telemetry.storedRecords = a.telemetry.storedRecords ∧
      b.telemetry.written = a.telemetry.written) ∧
    ((∀ order, ¬ r.Orders a.settings.ingestion order) → response.status ≠ 200 ∧ b = a) ∧
    (response.status = 200 ↔ ∃ order n, r.Orders a.settings.ingestion order ∧
      (a.normalize (request order.target)).1 = .ok n) ∧
    ∀ order n, r.Orders a.settings.ingestion order →
      (a.normalize (request order.target)).1 = .ok n →
      let key : ObjectKey := ⟨order.target.ns,order.target.name⟩
      let record : MetricRecord := ⟨n.identity,key,order.value,order.labels,a.clock⟩
      response.status = 200 ∧ response.body = .record record ∧
      b.normalizeNow (request order.target) = .ok n ∧
      b.store = a.store.upsert record ∧
      (∀ i other, b.store.get? i other =
        if n.identity = i ∧ key = other then some record else a.store.get? i other) ∧
      b.telemetry.metricWrites = a.telemetry.metricWrites + 1 ∧
      b.telemetry.storedRecords = b.store.records.length ∧
      b.telemetry.written = a.telemetry.written ++ [.written a.settings.name record] ∧
      (LogEvent.written a.settings.name record).fields =
        [("event",.text "metric_written"),("instance",.text a.settings.name),
          ("metric",.text n.identity.text),("object",.text key.text),("value",.float order.value),
          ("labels",.text order.labels.text)] := by
  intro r
  have cases := serve_post_cases (a := a) (r := r) rfl
  have refused := @serve_of_no_order a r rfl
  have carried := @serve_of_understood a r rfl
  -- Only these three facts are needed of the answer and of the adapter left.
  generalize a.serve r = served at cases refused carried ⊢
  obtain ⟨response,b⟩ := served
  have answered {order : WriteOrder} {n : Normalized} (orders : r.Orders a.settings.ingestion order)
      (known : (a.normalize order.target.request).1 = .ok n) : response.status = 200 :=
    congrArg HttpResponse.status (carried orders known).1
  refine ⟨fun bad => ?_,fun orderless => ?_,⟨fun good => ?_,?_⟩,?_⟩
  · obtain ⟨_,same⟩ | ⟨order,n,orders,known⟩ := cases
    · exact untouched_of_books same
    · exact absurd (answered orders known) bad
  · obtain ⟨refusal,bad,served⟩ := refused orderless
    obtain ⟨rfl,rfl⟩ := Prod.mk.inj served
    exact ⟨bad,rfl⟩
  · obtain ⟨bad,_⟩ | understood := cases
    · exact absurd good bad
    · exact understood
  · rintro ⟨order,n,orders,known⟩
    exact answered orders known
  · intro order n orders known key record
    obtain ⟨first,again,entered⟩ := carried orders known
    have shown : response = ⟨200,.record record⟩ := first
    obtain ⟨store,writes,stored,events⟩ := entered_of_books entered
    refine ⟨answered orders known,congrArg HttpResponse.body shown,again,store,fun i other => ?_,
      writes,stored,events,rfl⟩
    rw [show b.store = _ from store]
    exact (a.store.get?_upsert record i other).trans (if_congr MetricRecord.place_eq_iff rfl rfl)

theorem serve_post_all_or_nothing_three_paths :
    let a := start ⟨"shop",.builtin,[],true,true,.samples⟩ ⟨7,0⟩
      (.ofReports [⟨"extensions","v1beta1","deployments",true,"Deployment",none⟩,
        ⟨"apps","v1","deployments",true,"Deployment",none⟩])
    let body : Text.Bytes := "1.5".toList.map fun c => c.toNat.toUInt8
    let known := "/write-metrics/namespaces/store/Deployment.apps/web%2D0/qps?labels=tier%3Dweb"
    let unknown := "/write-metrics/jobs/web-0/qps"
    let unnamed := "/write-metrics/jobs//qps"
    let order : WriteOrder :=
      ⟨⟨"Deployment.apps","store","web-0","qps"⟩,1.5,LabelSet.ofList [("tier","web")]⟩
    let identity : MetricIdentity := ⟨⟨"apps","deployments"⟩,true,"qps"⟩
    let record : MetricRecord := ⟨identity,⟨"store","web-0"⟩,1.5,order.labels,⟨7,0⟩⟩
    HttpRequest.Orders ⟨"POST",known,body⟩ true order ∧
    (a.normalize order.target.request).1 = .ok ⟨identity,"deployment",.namespaced⟩ ∧
    (a.serve ⟨"POST",known,body⟩).1.status = 200 ∧
    (a.serve ⟨"POST",known,body⟩).1.body = .record record ∧
    (a.serve ⟨"POST",known,body⟩).2.store.get? identity ⟨"store","web-0"⟩ = some record ∧
    (a.serve ⟨"POST",known,body⟩).2.telemetry.storedRecords = 1 ∧
    (LogEvent.written "shop" record).fields = [("event",.text "metric_written"),
      ("instance",.text "shop"),("metric",.text "deployments.apps/qps(namespaced)"),
      ("object",.text "store/web-0"),("value",.float 1.5),("labels",.text "tier=web")] ∧
    (a.serve ⟨"POST",unknown,body⟩).1.status = 404 ∧
    (a.serve ⟨"POST",unknown,body⟩).2.store = a.store ∧
    (∀ other, ¬ HttpRequest.Orders ⟨"POST",unnamed,body⟩ true other) ∧
    (a.serve ⟨"POST",unnamed,body⟩).2 = a := by
  intro a body known unknown unnamed order identity record
  have orders : HttpRequest.Orders ⟨"POST",known,body⟩ true order :=
    ⟨"namespaces/store/Deployment.apps/web%2D0/qps","namespaces/store/Deployment.apps/web-0/qps",
      by decide +kernel,by decide +kernel,by decide +kernel,by decide +kernel,by decide +kernel,
      by decide +kernel,by decide +kernel⟩
  have understood : (a.normalize order.target.request).1 =
      .ok ⟨identity,"deployment",.namespaced⟩ := by decide +kernel
  have missing : (a.serve ⟨"POST",unknown,body⟩).1.status = 404 := by decide +kernel
  have failed : (a.serve ⟨"POST",unknown,body⟩).1.status ≠ 200 := by
    rw [missing]
    decide
  have orderless : ∀ other, ¬ HttpRequest.Orders ⟨"POST",unnamed,body⟩ true other := by
    rintro other ⟨path,decoded,routed,plain,_,_,target,_⟩
    have led : Route.ofPath? true (HttpRequest.path ⟨"POST",unnamed,body⟩) =
        some (.write "jobs//qps") := by decide +kernel
    have same : Text.decodePath "jobs//qps" = some "jobs//qps" := by decide +kernel
    have nowhere : WriteTarget.ofPath? "jobs//qps" = none := by decide +kernel
    obtain rfl := Route.write.inj (Option.some.inj (led.symm.trans routed))
    obtain rfl := Option.some.inj (same.symm.trans plain)
    exact Option.some_ne_none _ (target.symm.trans nowhere)
  obtain ⟨_,_,_,carried⟩ := serve_post_all_or_nothing a known body
  obtain ⟨status,answer,_,stored,placed,_,gauge,_,fields⟩ := carried order _ orders understood
  obtain ⟨refused,_⟩ := serve_post_all_or_nothing a unknown body
  obtain ⟨_,unmade,_⟩ := serve_post_all_or_nothing a unnamed body
  refine ⟨orders,understood,status,answer,(placed _ _).trans (if_pos ⟨rfl,rfl⟩),?_,fields,missing,
    (refused failed).1,orderless,(unmade orderless).2⟩
  rw [gauge,stored]
  rfl

end Adapter

end ObjectMetrics
