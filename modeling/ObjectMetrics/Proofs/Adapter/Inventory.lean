import ObjectMetrics.Proofs.Adapter.Operation
import ObjectMetrics.Proofs.Order.Keyed

/-! The inventory beside the history of its additions. Whatever else a run does, an object is listed
under the labels given to it last and at the place where it was first added, and a query over the
listed objects finds at most one record of each. -/
namespace ObjectMetrics

def lastItem? (history : List InventoryItem) (resource : GroupResource) (key : ObjectKey) :
    Option InventoryItem :=
  history.reverse.find? fun item => item.place = (resource,key)

def firstAddition (history : List InventoryItem) (resource : GroupResource) (key : ObjectKey) : Nat :=
  history.findIdx fun item => item.place = (resource,key)

namespace Inventory

variable {inv : Inventory} {history : List InventoryItem} {resource : GroupResource} {ns : String}
  {selector : Selector}

theorem mem_names_iff {name : String} : name ∈ inv.names resource ns selector ↔
    ∃ item ∈ inv.items, item.place = (resource,⟨ns,name⟩) ∧ selector.isMetBy item.labels := by
  simp only [names,List.mem_map,List.mem_filter,Bool.and_eq_true,decide_eq_true_eq]
  constructor
  · rintro ⟨⟨_,⟨_,_⟩,_⟩,⟨member,⟨rfl,rfl⟩,met⟩,rfl⟩
    exact ⟨_,member,rfl,met⟩
  · rintro ⟨item,member,place,met⟩
    obtain ⟨rfl,key⟩ := Prod.mk.inj place
    exact ⟨item,⟨member,⟨rfl,congrArg ObjectKey.ns key⟩,met⟩,congrArg ObjectKey.name key⟩

/-- The names of one resource and namespace are in whatever order their places are. -/
theorem pairwise_names {R : GroupResource × ObjectKey → GroupResource × ObjectKey → Prop}
    (ordered : (inv.items.map InventoryItem.place).Pairwise R) :
    (inv.names resource ns selector).Pairwise fun first second =>
      R (resource,⟨ns,first⟩) (resource,⟨ns,second⟩) := by
  rw [List.pairwise_map] at ordered
  rw [names,List.pairwise_map]
  apply (ordered.filter _).imp_of_mem
  intro x y listed other related
  have place {item : InventoryItem}
      (kept : item ∈ inv.items.filter fun item =>
        item.resource = resource && item.key.ns = ns && selector.isMetBy item.labels) :
      item.place = (resource,⟨ns,item.key.name⟩) := by
    obtain ⟨_,⟨_,_⟩,_⟩ := item
    simp only [List.mem_filter,Bool.and_eq_true,decide_eq_true_eq] at kept
    obtain ⟨_,⟨rfl,rfl⟩,_⟩ := kept
    rfl
  rwa [place listed,place other] at related

variable (added : inv.items = Order.putAll InventoryItem.place history [])

include added

theorem mem_names_iff_last {name : String} : name ∈ inv.names resource ns selector ↔
    ∃ item, lastItem? history resource ⟨ns,name⟩ = some item ∧ selector.isMetBy item.labels := by
  have once : (inv.items.map InventoryItem.place).Nodup :=
    added ▸ Order.nodup_keys_putAll InventoryItem.place history List.nodup_nil
  have last : inv.items.find? (fun item => item.place = (resource,⟨ns,name⟩)) =
      lastItem? history resource ⟨ns,name⟩ := by
    rw [added,Order.find?_putAll]
    exact Option.or_none
  simp only [mem_names_iff,← last,Order.find?_eq_some_iff once,and_assoc]

theorem names_by_first_addition (resource : GroupResource) (ns : String) (selector : Selector) :
    (inv.names resource ns selector).Pairwise fun first second =>
      firstAddition history resource ⟨ns,first⟩ < firstAddition history resource ⟨ns,second⟩ := by
  apply pairwise_names (R := fun k l =>
    (history.findIdx fun item => item.place = k) < history.findIdx fun item => item.place = l)
  rw [added]
  exact Order.ordered_keys_putAll InventoryItem.place history

end Inventory

namespace Store

variable {s : Store} {i : MetricIdentity} {ns : String} {selector : Selector} {names : List String}

theorem mem_lookupAll_iff {r : MetricRecord} : r ∈ s.lookupAll i ns selector names ↔
    ∃ name ∈ names, s.get? i ⟨ns,name⟩ = some r ∧ selector.isMetBy r.labels := by
  simp only [lookupAll,List.mem_filterMap,toOption_lookup,Option.filter_eq_some_iff]

theorem names_lookupAll :
    ((s.lookupAll i ns selector names).map fun r => r.key.name).Sublist names := by
  induction names with
  | nil => exact .slnil
  | cons name names ih =>
    rw [lookupAll,List.filterMap_cons]
    split
    · exact ih.cons name
    · rename_i r found
      rw [toOption_lookup,Option.filter_eq_some_iff] at found
      have key := (place_of_find? found.1).2
      rw [List.map_cons,key]
      exact ih.cons_cons name

end Store

def additions (ops : List Operation) : List InventoryItem :=
  ops.filterMap fun
    | .addObject item => some item
    | _ => none

namespace Adapter

theorem items_perform (a : Adapter) (op : Operation) : (a.perform op).inventory.items =
    Order.putAll InventoryItem.place (additions [op]) a.inventory.items := by
  have normalized (request : MetricRequest) :
      (a.normalize request).2.inventory.items = a.inventory.items :=
    view_normalize (fun b => b.inventory.items) rfl request
  cases op with
  | normalize request => exact normalized request
  | write request key value labels =>
    rw [perform,write_state]
    cases (a.normalize request).1.toOption <;> exact normalized request
  | get request key selector =>
    rw [perform,get_state]
    exact normalized request
  | select request ns objects selector =>
    have asked : (a.select request ns objects selector).2.inventory.items =
        (a.normalize request).2.inventory.items := by
      unfold select
      rcases a.normalize request with ⟨fault | n,b⟩ <;> rfl
    exact asked.trans (normalized request)
  | _ => rfl

theorem items_run (a : Adapter) (ops : List Operation) : (a.run ops).inventory.items =
    Order.putAll InventoryItem.place (additions ops) a.inventory.items := by
  induction ops generalizing a with
  | nil => rfl
  | cons op ops ih =>
    have parts : additions (op :: ops) = additions [op] ++ additions ops :=
      List.filterMap_append (l := [op])
    have rest : (a.run (op :: ops)).inventory.items = _ := ih (a.perform op)
    rw [rest,items_perform,parts,Order.putAll,Order.putAll,Order.putAll,List.foldl_append]

/-- After any run, as long as no failure is set, the listed objects of a resource and namespace are those
whose labels given last satisfy the selector, each once and in the order of their first additions.
A query over them finds, in whatever store, at most one record of each object: it finds the records of
those listed objects that have one with labels that satisfy the metric selector, in the order of the
list. -/
theorem list_of_additions (settings : AdapterSettings) (clock : Instant) (source : DiscoverySource)
    (ops : List Operation) (works : ((start settings clock source).run ops).inventory.failure = none)
    (i : MetricIdentity) (ns : String) (objects : Selector) :
    let a := (start settings clock source).run ops
    ∃ names : List String, (a.inventory.list i.resource ns objects).1 = .ok names ∧ names.Nodup ∧
      (∀ name, name ∈ names ↔ ∃ item, lastItem? (additions ops) i.resource ⟨ns,name⟩ = some item ∧
        objects.isMetBy item.labels) ∧
      (names.Pairwise fun first second =>
        firstAddition (additions ops) i.resource ⟨ns,first⟩ <
          firstAddition (additions ops) i.resource ⟨ns,second⟩) ∧
      ∀ (store : Store) (selector : Selector), ∃ records : List MetricRecord,
        ({ a with store }.recordsWhere i ns objects selector).1 = .ok records ∧
        (records.map MetricRecord.key).Nodup ∧
        (∀ r, r ∈ records ↔ ∃ name ∈ names, store.get? i ⟨ns,name⟩ = some r ∧
          selector.isMetBy r.labels) ∧
        (records.map fun r => r.key.name).Sublist names := by
  intro a
  have added : a.inventory.items = Order.putAll InventoryItem.place (additions ops) [] :=
    items_run (start settings clock source) ops
  have listed : (a.inventory.list i.resource ns objects).1 =
      .ok (a.inventory.names i.resource ns objects) := by
    rw [Inventory.list,works]
  have ordered := Inventory.names_by_first_addition added i.resource ns objects
  have once : (a.inventory.names i.resource ns objects).Nodup := by
    apply ordered.imp
    rintro first _ before rfl
    exact Nat.lt_irrefl _ before
  refine ⟨_,listed,once,fun name => Inventory.mem_names_iff_last added,ordered,?_⟩
  intro store selector
  refine ⟨store.lookupAll i ns selector (a.inventory.names i.resource ns objects),?_,?_,
    fun r => Store.mem_lookupAll_iff,Store.names_lookupAll⟩
  · change store.select i ns selector (a.inventory.list i.resource ns objects).1 = _
    rw [listed]
    rfl
  · apply List.Nodup.of_map ObjectKey.name
    rw [List.map_map]
    exact Store.names_lookupAll.nodup once

theorem list_of_additions_relabelled :
    let pods : GroupResource := ⟨"","pods"⟩
    let tier (value : String) : LabelSet := .ofList [("tier",value)]
    let web : Selector := ⟨[⟨"tier",.equals "web"⟩]⟩
    let item (ns name value : String) : Operation := .addObject ⟨pods,⟨ns,name⟩,tier value⟩
    let ops : List Operation := [item "default" "b" "db",item "default" "a" "web",
      item "other" "c" "web",.setInventoryFailure (some "down"),item "default" "b" "web",
      item "default" "d" "web",item "default" "d" "db",.setInventoryFailure none]
    let a := (start ⟨"",.builtin,[],true,true,.samples⟩ ⟨0,0⟩ (.ofReports [])).run ops
    let cpu : MetricIdentity := ⟨pods,true,"cpu"⟩
    let seen : MetricRecord := ⟨cpu,⟨"default","a"⟩,1,tier "web",⟨0,0⟩⟩
    let store : Store := ⟨[⟨cpu,⟨"default","b"⟩,2,tier "db",⟨0,0⟩⟩,seen]⟩
    a.inventory.failure = none ∧
    (a.inventory.list pods "default" web).1 = .ok ["b","a"] ∧
    firstAddition (additions ops) pods ⟨"default","b"⟩ <
      firstAddition (additions ops) pods ⟨"default","a"⟩ ∧
    ∃ records, ({ a with store }.recordsWhere cpu "default" web web).1 = .ok records ∧
      seen ∈ records ∧ (records.map fun r => r.key.name).Sublist ["b","a"] := by
  intro pods tier web item ops a cpu seen store
  have works : a.inventory.failure = none := by decide +kernel
  obtain ⟨names,listed,_,_,ordered,found⟩ :=
    list_of_additions ⟨"",.builtin,[],true,true,.samples⟩ ⟨0,0⟩ (.ofReports []) ops works cpu
      "default" web
  have both : (a.inventory.list pods "default" web).1 = .ok ["b","a"] := by decide +kernel
  obtain rfl : names = ["b","a"] := Except.ok.inj (listed.symm.trans both)
  obtain ⟨records,answered,_,members,sublist⟩ := found store web
  refine ⟨works,both,List.rel_of_pairwise_cons ordered (by simp),records,answered,?_,sublist⟩
  exact (members seen).mpr ⟨"a",by decide,by decide +kernel,by decide +kernel⟩

end Adapter

end ObjectMetrics
