import Mathlib.Data.List.Perm.Basic
import ObjectMetrics.External
import ObjectMetrics.Proofs.Order.Stable

/-! Listing external metrics beside serving them. An entry is served under its own name and under no
other, so the queries for the listed names deal out the entries among them. -/
namespace ObjectMetrics

namespace Order

/-- The groups of different keys hold, together, what has one of those keys. -/
theorem perm_flatMap_filter {α κ : Type} [DecidableEq κ] (key : α → κ) (xs : List α) {keys : List κ}
    (once : keys.Nodup) :
    (keys.flatMap fun k => xs.filter fun x => key x = k).Perm
      (xs.filter fun x => key x ∈ keys) := by
  induction keys with
  | nil => simp
  | cons k keys ih =>
    obtain ⟨absent,later⟩ := List.nodup_cons.mp once
    have first : ((xs.filter fun x => key x ∈ k :: keys).filter fun x => key x = k) =
        xs.filter fun x => key x = k := by
      rw [List.filter_filter]
      apply List.filter_congr
      intro x _
      by_cases same : key x = k <;> simp [same]
    have others : ((xs.filter fun x => key x ∈ k :: keys).filter fun x => !decide (key x = k)) =
        xs.filter fun x => key x ∈ keys := by
      rw [List.filter_filter]
      apply List.filter_congr
      intro x _
      by_cases same : key x = k <;> simp [same,absent]
    have divided := List.filter_append_perm (fun x => decide (key x = k))
      (xs.filter fun x => key x ∈ k :: keys)
    rw [first,others] at divided
    rw [List.flatMap_cons]
    exact ((ih later).append_left _).trans divided

end Order

namespace ExternalIndex

theorem query_everything (index : ExternalIndex) (now : Instant) (name : String) :
    index.query now name .everything =
      (index.entries.filter fun e => e.name = name).map fun e => e.sampleAt now := by
  simp only [query,Selector.isMetBy_everything,Bool.and_true]

theorem mem_names_iff {index : ExternalIndex} {name : String} :
    name ∈ index.names ↔ ∃ e ∈ index.entries, e.name = name := by
  rw [names,Order.mem_distinct_iff Function.injective_id,List.mem_map]

/-- The names are listed in increasing order, and they are those under which there is something to
query. A query answers with the entries of its name whose labels satisfy its selector, each as often
and at the place where it is entered, with its own name, labels and value and with the time of the
query. Together the queries for all listed names answer with every entry once. -/
theorem query_serves_names (index : ExternalIndex) (now : Instant) :
    index.names.Pairwise (· < ·) ∧
    (∀ name, name ∈ index.names ↔ index.query now name .everything ≠ []) ∧
    (∀ name selector, ∃ served : List ExternalEntry, served.Sublist index.entries ∧
      (∀ e, served.count e =
        if e.name = name ∧ selector.isMetBy e.labels then index.entries.count e else 0) ∧
      index.query now name selector = served.map fun e => ⟨e.name,e.labels,e.value,now⟩) ∧
    (index.names.flatMap fun name => index.query now name .everything).Perm
      (index.entries.map fun e => ⟨e.name,e.labels,e.value,now⟩) := by
  have increasing : index.names.Pairwise (· < ·) := Order.increasing_distinct id _
  refine ⟨increasing,fun name => ?_,fun name selector => ⟨_,List.filter_sublist,fun e => ?_,rfl⟩,?_⟩
  · rw [mem_names_iff,query_everything]
    simp [List.filter_eq_nil_iff]
  · by_cases asked : e.name = name ∧ selector.isMetBy e.labels
    · rw [if_pos asked]
      apply List.count_filter
      simpa using asked
    · rw [if_neg asked]
      apply List.count_eq_zero_of_not_mem
      simp only [List.mem_filter,Bool.and_eq_true,decide_eq_true_eq]
      exact fun kept => asked kept.2
  · have once : index.names.Nodup := increasing.imp Std.ne_of_lt
    have all : (index.entries.filter fun e => e.name ∈ index.names) = index.entries := by
      apply List.filter_eq_self.mpr
      intro e entered
      exact decide_eq_true (mem_names_iff.mpr ⟨e,entered,rfl⟩)
    have dealt := Order.perm_flatMap_filter ExternalEntry.name index.entries once
    rw [all] at dealt
    simp only [query_everything,← List.map_flatMap]
    exact dealt.map _

theorem query_serves_names_repeated_entry :
    let queue (level : String) (value : Float) : ExternalEntry :=
      ⟨"queue",LabelSet.ofList [("level",level)],value⟩
    let index : ExternalIndex := ⟨[queue "high" 3,⟨"load",.empty,7⟩,queue "low" 1,queue "high" 3]⟩
    let high : Selector := ⟨[⟨"level",.equals "high"⟩]⟩
    let sample : ExternalSample := ⟨"queue",LabelSet.ofList [("level","high")],3,⟨60,5⟩⟩
    index.names = ["load","queue"] ∧ index.query ⟨60,5⟩ "load" .everything ≠ [] ∧
    index.query ⟨60,5⟩ "queue" high = [sample,sample] ∧
    (index.query ⟨60,5⟩ "load" .everything ++ index.query ⟨60,5⟩ "queue" .everything).Perm
      [sample,⟨"load",.empty,7,⟨60,5⟩⟩,⟨"queue",LabelSet.ofList [("level","low")],1,⟨60,5⟩⟩,sample] := by
  intro queue index high sample
  obtain ⟨_,listed,_,dealt⟩ := query_serves_names index ⟨60,5⟩
  have names : index.names = ["load","queue"] := by decide +kernel
  refine ⟨names,(listed "load").mp (by decide +kernel),by decide +kernel,?_⟩
  rwa [names,List.flatMap_cons,List.flatMap_singleton] at dealt

end ExternalIndex

end ObjectMetrics
