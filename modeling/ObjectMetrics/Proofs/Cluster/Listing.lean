import ObjectMetrics.Cluster.Listing
import ObjectMetrics.Proofs.Catalog.Kinds
import ObjectMetrics.Proofs.Selector.Printing
import ObjectMetrics.Proofs.Text.Form

/-! What a listing asks the API server. Names of path characters and an encoded selector leave the one
question mark between path and query, so the server sees the address that was meant, unless that is too
long to be sent. -/
namespace ObjectMetrics.Cluster

def IsPathText (s : String) : Prop := ∀ c ∈ s.toList, isPathChar c

instance (s : String) : Decidable (IsPathText s) :=
  decidable_of_iff (s.toList.all isPathChar = true) List.all_eq_true

theorem IsPathText.append {s t : String} (first : IsPathText s) (second : IsPathText t) :
    IsPathText (s ++ t) := by
  rw [IsPathText,String.toList_append,List.forall_mem_append]
  exact ⟨first,second⟩

theorem Address.ofText?_target {path query : String} (inPath : IsPathText path)
    (inQuery : ∀ c ∈ query.toList, isQueryChar c) :
    ofText? (path ++ "?" ++ query) =
      if (path ++ "?" ++ query).utf8ByteSize ≤ maxLength then some ⟨path,some query⟩ else none := by
  have letters : (path ++ "?" ++ query).toList = path.toList ++ '?' :: query.toList := by simp
  have unmarked : '#' ∉ (path ++ "?" ++ query).toList := by
    rw [letters,List.mem_append,List.mem_cons]
    rintro (member | sign | member)
    · exact absurd (inPath _ member) (by decide)
    · exact absurd sign (by decide)
    · exact absurd (inQuery _ member) (by decide)
  have sent : Text.before '#' (path ++ "?" ++ query) = path ++ "?" ++ query := by
    rw [Text.before,Text.cut?_eq_none_iff.mpr unmarked]
    rfl
  have cut : Text.cut? '?' (path ++ "?" ++ query) = some (path,query) :=
    Text.cut?_eq_some_iff.mpr ⟨letters,fun member => absurd (inPath _ member) (by decide)⟩
  have valid : isValid ⟨path,some query⟩ = true := by
    simp only [isValid,Option.all_some,Bool.and_eq_true,List.all_eq_true]
    exact ⟨inPath,inQuery⟩
  have front : Text.before '?' (path ++ "?" ++ query) = path := by
    rw [Text.before,cut]
    rfl
  simp only [ofText?,sent,front,cut,Option.map_some,valid,Bool.and_true,decide_eq_true_eq]

/-- The names on the way to the objects of a mapping, as they stand between slashes. -/
def objectSegments (m : Mapping) (ns : String) : List String :=
  (if m.group = "" then ["api",m.version] else ["apis",m.group,m.version]) ++
    (if m.scope = .namespaced ∧ ns ≠ "" then ["namespaces",ns] else []) ++ [m.plural]

/-- An address that asks for the objects of a mapping that satisfy a selector, and for nothing else. -/
structure Address.AsksFor (a : Address) (m : Mapping) (ns : String) (selector : Selector) : Prop where
  path : a.path = "/".intercalate ("" :: objectSegments m ns)
  parameters : ∃ values : List String,
    a.query.map Text.queryParameters = some (values.map (Prod.mk "labelSelector")) ∧
      values.map Selector.parse = if selector.requirements = [] then [] else [.ok selector]

namespace ListRequest

variable {r : ListRequest}

theorem path_eq (r : ListRequest) :
    r.path = "/".intercalate ("" :: objectSegments r.mapping r.ns) := by
  have inScope : r.mapping.scope.isNamespaced ↔ r.mapping.scope = .namespaced := by
    cases r.mapping.scope <;> decide
  apply String.toList_inj.mp
  simp only [path,groupRoot,objectSegments,Bool.and_eq_true,decide_eq_true_eq,inScope]
  split_ifs <;> simp [String.intercalate_cons_cons]

theorem isPathText_path (named : ∀ part ∈ [r.mapping.group,r.mapping.version,r.mapping.plural,r.ns],
    IsPathText part) : IsPathText r.path := by
  obtain ⟨group,version,plural,ns,_⟩ : IsPathText r.mapping.group ∧ IsPathText r.mapping.version ∧
      IsPathText r.mapping.plural ∧ IsPathText r.ns ∧ True := by simpa using named
  refine .append (.append (.append ?_ ?_) (by decide)) plural
  · unfold groupRoot
    split
    · exact .append (by decide) version
    · exact .append (.append (.append (by decide) group) (by decide)) version
  · split
    · exact .append (by decide) ns
    · decide

theorem isQueryChar_query (r : ListRequest) : ∀ c ∈ r.query.toList, isQueryChar c := by
  unfold query
  split
  · simp
  · have name : ∀ c ∈ "&labelSelector=".toList, isQueryChar c := List.all_eq_true.mp (by decide)
    rw [String.toList_append,List.forall_mem_append]
    exact ⟨name,Text.forall_encodeForm (by decide +kernel) r.selector.text⟩

theorem queryParameters_query (r : ListRequest) : Text.queryParameters r.query =
    if r.selector.requirements = [] then [] else [("labelSelector",r.selector.text)] := by
  simp only [query,Selector.isEverything_iff]
  split
  · decide
  · have name : "&labelSelector=" = "&" ++ "labelSelector" ++ "=" := by decide
    rw [name,Text.queryParameters_single (by decide)]

theorem asksFor (canonical : r.selector.Canonical) :
    Address.AsksFor ⟨r.path,some r.query⟩ r.mapping r.ns r.selector where
  path := r.path_eq
  parameters := by
    rw [Option.map_some,queryParameters_query]
    split
    · exact ⟨[],rfl,rfl⟩
    · exact ⟨[r.selector.text],rfl,by rw [List.map_singleton,canonical.parse_printed]⟩

end ListRequest

section Asking

variable (server : Address → ListReply) {r : ListRequest}
variable (named : ∀ part ∈ [r.mapping.group,r.mapping.version,r.mapping.plural,r.ns], IsPathText part)
include named

private theorem address?_eq :
    let a : Address := ⟨r.path,some r.query⟩
    r.address? = if a.text.utf8ByteSize ≤ Address.maxLength then some a else none :=
  Address.ofText?_target (ListRequest.isPathText_path named) r.isQueryChar_query

/-- A request whose names may stand in a path is seen as it was meant, if it fits into an address. -/
theorem ask_of_fits :
    let a : Address := ⟨r.path,some r.query⟩
    let context := s!"Failed to list {r.mapping.groupResource.text} in " ++ Text.quote r.ns
    a.text.utf8ByteSize ≤ Address.maxLength →
      (∀ names, server a = .ok names → ask server r = (.ok (names.filterMap id),[a])) ∧
      ∀ failure, server a = .error failure → ask server r = (.error (failure.within context),[a]) := by
  intro a context fits
  have sent : r.address? = some a := (address?_eq named).trans (if_pos fits)
  refine ⟨fun names listed => ?_,fun failure refused => ?_⟩
  · simp only [ask,sent,listed]
  · simp only [ask,sent,refused]
    rfl

theorem ask_of_long :
    let a : Address := ⟨r.path,some r.query⟩
    Address.maxLength < a.text.utf8ByteSize → ∃ failure, ask server r = (.error failure,[]) := by
  intro a long
  have unsent : r.address? = none := (address?_eq named).trans (if_neg (Nat.not_le.mpr long))
  rw [ask,unsent]
  exact ⟨_,rfl⟩

end Asking

theorem objectNames_of_resolve (server : Address → ListReply) {c : Catalog} {preferred : List String}
    {i : MetricIdentity} {m : Mapping} (ns : String) (selector : Selector)
    (resolved : c.resolve preferred i.resource.anyVersion = .ok m) :
    objectNames server c preferred i ns selector = ask server ⟨m,ns,selector⟩ := by
  rw [objectNames,listRequest,resolved]

theorem objectNames_of_fault (server : Address → ListReply) {c : Catalog} {preferred : List String}
    {i : MetricIdentity} {fault : Fault} (ns : String) (selector : Selector)
    (failed : c.resolve preferred i.resource.anyVersion = .error fault) :
    objectNames server c preferred i ns selector =
      (.error ((Failure.ofCause fault.message).within
        ("Failed to resolve API resource for " ++ i.text)),[]) := by
  rw [objectNames,listRequest,failed]

private theorem utf8ByteSize_replicate (n : Nat) :
    (String.ofList (List.replicate n 'a')).utf8ByteSize = n := by
  induction n with
  | zero => rfl
  | succ n ih =>
    rw [List.replicate_succ,String.ofList_cons,String.utf8ByteSize_append,ih]
    exact Nat.add_comm 1 n

/-- A resource of the catalog that has a group, or is of the core group where that is preferred to all
others, is asked for once, where its own mapping is served and with the selector for the only
parameter. Nothing is asked where the address is too long, or where the resource is not found. -/
theorem objectNames_asks_once (singularize : String → String) (generation : Nat)
    (reports : List ResourceReport) (preferred : List String) (server : Address → ListReply)
    (i : MetricIdentity) (ns : String) :
    let c := (Catalog.build singularize generation reports).1
    (∀ (m : Mapping) (raw : String) (selector : Selector), c.get? i.resource = some m →
      i.resource.group ≠ "" ∨ preferred.head? = some "" →
      (∀ part ∈ [m.group,m.version,m.plural,ns], IsPathText part) →
      Selector.parse raw = .ok selector →
      let r : ListRequest := ⟨m,ns,selector⟩
      let a : Address := ⟨r.path,some r.query⟩
      let context := s!"Failed to list {m.groupResource.text} in " ++ Text.quote ns
      a.AsksFor m ns selector ∧
      ((r.path ++ "?" ++ r.query).utf8ByteSize ≤ 65534 →
        (∀ names, server a = .ok names →
          objectNames server c preferred i ns selector = (.ok (names.filterMap id),[a])) ∧
        ∀ failure, server a = .error failure →
          objectNames server c preferred i ns selector =
            (.error ⟨failure.cause,failure.contexts ++ [context]⟩,[a])) ∧
      (65534 < (r.path ++ "?" ++ r.query).utf8ByteSize →
        ∃ failure, objectNames server c preferred i ns selector = (.error failure,[]))) ∧
    ∀ (selector : Selector) (fault : Fault), c.resolve preferred i.resource.anyVersion = .error fault →
      objectNames server c preferred i ns selector =
        (.error ⟨fault.message,["Failed to resolve API resource for " ++ i.text]⟩,[]) := by
  intro c
  refine ⟨fun m raw selector found decided named parsed => ?_,fun selector fault failed =>
    objectNames_of_fault server ns selector failed⟩
  intro r a context
  have wf : c.WellFormed := Catalog.wellFormed_build singularize generation reports
  have canonical : selector.Canonical := Selector.canonical_of_parse parsed
  rw [objectNames_of_resolve server ns selector (wf.resolve_of_decided found decided)]
  exact ⟨ListRequest.asksFor canonical,ask_of_fits server named,ask_of_long server named⟩

theorem objectNames_asks_once_for_carts :
    let reports : List ResourceReport := [⟨"depot.example","v1","carts",true,"Cart",none⟩,
      ⟨"shop.example","v2","Carts",true,"Cart",none⟩,⟨"shop.example","v1","carts",true,"Cart",none⟩]
    let c := (Catalog.build Inflection.builtin.singular 1 reports).1
    let m : Mapping := ⟨"shop.example","carts","cart","Cart",.namespaced,"v2",["v1"]⟩
    let selector : Selector := ⟨[⟨"in",.present⟩,⟨"tier",.noneOf ["","front"]⟩]⟩
    let a : Address := ⟨"/apis/shop.example/v2/namespaces/store/carts",
      some "&labelSelector=in%2Ctier+notin+%28%2Cfront%29"⟩
    let server : Address → ListReply := fun _ => .ok [some "b",none,some "a"]
    let down : Address → ListReply := fun _ => .error ⟨"refused",[]⟩
    c.get? ⟨"shop.example","carts"⟩ = some m ∧
    Selector.parse "tier notin (front,), in" = .ok selector ∧ a.AsksFor m "store" selector ∧
    objectNames server c [] ⟨⟨"shop.example","carts"⟩,true,"load"⟩ "store" selector =
      (.ok ["b","a"],[a]) ∧
    objectNames down c [] ⟨⟨"shop.example","carts"⟩,true,"load"⟩ "store" selector =
      (.error ⟨"refused",["Failed to list carts.shop.example in \"store\""]⟩,[a]) ∧
    objectNames server c [] ⟨⟨"","carts"⟩,true,"load"⟩ "store" selector =
      (.error ⟨"carts matches multiple resources: carts.depot.example, carts.shop.example",
        ["Failed to resolve API resource for carts/load(namespaced)"]⟩,[]) := by
  intro reports c m selector a server down
  have found : c.get? ⟨"shop.example","carts"⟩ = some m := by decide +kernel
  have parsed : Selector.parse "tier notin (front,), in" = .ok selector := by decide +kernel
  have named : ∀ part ∈ [m.group,m.version,m.plural,"store"], IsPathText part := by decide +kernel
  have ambiguous : c.resolve [] ⟨"","","carts"⟩ =
      .error (.ambiguous ⟨"","carts"⟩ ["carts.depot.example","carts.shop.example"]) := by
    decide +kernel
  let carts : MetricIdentity := ⟨⟨"shop.example","carts"⟩,true,"load"⟩
  have asks := objectNames_asks_once Inflection.builtin.singular 1 reports []
  obtain ⟨meant,answered,_⟩ :=
    (asks server carts "store").1 m _ selector found (.inl (by decide)) named parsed
  obtain ⟨_,refused,_⟩ :=
    (asks down carts "store").1 m _ selector found (.inl (by decide)) named parsed
  have address : (⟨ListRequest.path ⟨m,"store",selector⟩,
      some (ListRequest.query ⟨m,"store",selector⟩)⟩ : Address) = a := by decide +kernel
  rw [address] at meant answered refused
  have unasked := (asks server ⟨⟨"","carts"⟩,true,"load"⟩ "store").2 selector _ ambiguous
  refine ⟨found,parsed,meant,(answered (by decide +kernel)).1 _ rfl,
    ((refused (by decide +kernel)).2 _ rfl).trans ?_,unasked.trans ?_⟩
  · decide +kernel
  · decide +kernel

/-- A namespace may be a name of path characters and yet too long for any address, so its pods are
not asked for. -/
theorem objectNames_asks_nothing_of_long_namespace :
    let c := (Catalog.build Inflection.builtin.singular 1 [⟨"","v1","pods",true,"Pod",none⟩]).1
    let m : Mapping := ⟨"","pods","pod","Pod",.namespaced,"v1",[]⟩
    let ns := String.ofList (List.replicate 65535 'a')
    c.get? ⟨"","pods"⟩ = some m ∧ (∀ part ∈ [m.group,m.version,m.plural,ns], IsPathText part) ∧
    Selector.parse "" = .ok .everything ∧
    ∃ failure, objectNames (fun _ => .ok [some "web-0"]) c [""] ⟨⟨"","pods"⟩,true,"cpu"⟩ ns
      .everything = (.error failure,[]) := by
  intro c m ns
  have resolved : c.resolve [""] ⟨"","","pods"⟩ = .ok m := by decide +kernel
  have inPath : IsPathText ns := by
    intro d member
    rw [String.toList_ofList,List.mem_replicate] at member
    rw [member.2]
    decide
  have named : ∀ part ∈ [m.group,m.version,m.plural,ns], IsPathText part := by
    simpa [m] using ⟨by decide,by decide,by decide,inPath⟩
  have size : ns.utf8ByteSize = 65535 := utf8ByteSize_replicate 65535
  have located : ListRequest.path ⟨m,ns,.everything⟩ =
      "/api/v1" ++ ("/namespaces/" ++ ns) ++ "/" ++ "pods" := by
    have nonempty : ns ≠ "" := by
      intro empty
      simp [empty] at size
    simp [ListRequest.path,groupRoot,m,nonempty,Scope.isNamespaced]
  refine ⟨by decide +kernel,named,by decide +kernel,?_⟩
  rw [objectNames_of_resolve _ ns .everything resolved]
  apply ask_of_long _ named
  simp only [Address.text,located,String.utf8ByteSize_append,size,Address.maxLength]
  omega

end ObjectMetrics.Cluster
