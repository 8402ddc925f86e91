import Mathlib.Data.List.Dedup
import ObjectMetrics.Proofs.Catalog.Reordering

/-! What a reference means, told from the mappings alone. Each group gives a word one meaning at most,
and the index of names leads to these meanings and no others. -/
namespace ObjectMetrics

def only? {α : Type} : List α → Option α
  | [x] => some x
  | _ => none

theorem only?_eq_some_iff {α : Type} {xs : List α} (distinct : xs.Nodup) {x : α} :
    only? xs = some x ↔ x ∈ xs ∧ ∀ y ∈ xs, y = x := by
  match xs with
  | [] => simp [only?]
  | [y] => simp [only?,eq_comm]
  | y :: z :: rest =>
    refine iff_of_false (by simp [only?]) ?_
    rintro ⟨_,alike⟩
    have same : y = z := (alike y (by simp)).trans (alike z (by simp)).symm
    simp [same] at distinct

namespace Catalog

/-- The mapping that a word means in a group: the one with this plural, or else the one with this
singular, provided that there is just one. -/
def meaning? (c : Catalog) (word group : String) : Option Mapping :=
  (c.mappings.find? fun m => m.group = group && m.plural = word).or
    (only? (c.mappings.filter fun m => m.group = group && m.singular = word))

def groups (c : Catalog) : List String := (c.mappings.map Mapping.group).dedup

/-- What a reference may mean: the meanings of its resource in its group, or in all groups where it
has none, as far as they serve its version. -/
def meanings (c : Catalog) (ref : ResourceReference) : List Mapping :=
  let groups := if ref.group = "" then c.groups else [ref.group]
  (groups.filterMap (c.meaning? (Text.lower ref.resource))).filter fun m =>
    ref.version = "" || (m.version :: m.laterVersions).contains ref.version

namespace WellFormed

variable {c : Catalog} {preferred : List String} {ref : ResourceReference}

theorem meaning?_eq_some_iff (wf : c.WellFormed) {word group : String} {m : Mapping} :
    c.meaning? word group = some m ↔ c.Names word m ∧ m.group = group := by
  unfold meaning?
  cases found : c.mappings.find? fun m => m.group = group && m.plural = word with
  | some plural =>
    have hit := List.find?_some found
    simp only [Bool.and_eq_true,decide_eq_true_eq] at hit
    have named : c.Names word plural := ⟨List.mem_of_find?_eq_some found,.inl hit.2⟩
    rw [Option.some_or,Option.some.injEq]
    constructor
    · rintro rfl
      exact ⟨named,hit.1⟩
    · rintro ⟨also,same⟩
      exact wf.names_unique named also (hit.1.trans same.symm)
  | none =>
    have free : ∀ other ∈ c.mappings, other.group = group → other.plural ≠ word := by
      simpa using found
    have distinct : c.mappings.Nodup := List.Nodup.of_map _ wf.table.distinct
    rw [Option.none_or,only?_eq_some_iff (distinct.filter _)]
    simp only [List.mem_filter,Bool.and_eq_true,decide_eq_true_eq]
    constructor
    · rintro ⟨⟨member,rfl,singular⟩,alone⟩
      refine ⟨⟨member,.inr ⟨singular,fun other there same => ?_⟩⟩,rfl⟩
      exact ⟨free other there same,fun shared => alone other ⟨there,same,shared⟩⟩
    · rintro ⟨⟨member,plural | ⟨singular,only⟩⟩,rfl⟩
      · exact absurd plural (free m member rfl)
      · refine ⟨⟨member,rfl,singular⟩,?_⟩
        rintro other ⟨there,same,shared⟩
        exact (only other there same).2 shared

theorem mem_meanings_iff (wf : c.WellFormed) {m : Mapping} :
    m ∈ c.meanings ref ↔ m ∈ c.candidates ref := by
  have served (m : Mapping) : (ref.version = "" ||
      (m.version :: m.laterVersions).contains ref.version) = m.serves ref.version := rfl
  simp only [meanings,served,List.mem_filter,List.mem_filterMap,wf.meaning?_eq_some_iff,
    wf.mem_candidates_iff]
  by_cases opened : ref.group = ""
  · simp only [opened,if_true,true_or,true_and]
    constructor
    · rintro ⟨⟨_,_,named,_⟩,serves⟩
      exact ⟨named,serves⟩
    · rintro ⟨named,serves⟩
      have listed : m.group ∈ c.groups := List.mem_dedup.mpr (List.mem_map.mpr ⟨m,named.1,rfl⟩)
      exact ⟨⟨m.group,listed,named,rfl⟩,serves⟩
  · simp only [opened,if_false,List.mem_singleton,exists_eq_left,false_or,and_assoc]

/-- The index of names leads to what a reference may mean, though in another order. -/
theorem perm_meanings (wf : c.WellFormed) (ref : ResourceReference) :
    (c.meanings ref).Perm (c.candidates ref) := by
  have groups : (if ref.group = "" then c.groups else [ref.group]).Nodup := by
    split
    · exact List.nodup_dedup _
    · exact List.nodup_singleton _
  have distinct : (c.meanings ref).Nodup := by
    apply List.Nodup.filter
    apply groups.filterMap
    intro group other m first second
    exact (wf.meaning?_eq_some_iff.mp first).2.symm.trans (wf.meaning?_eq_some_iff.mp second).2
  rw [List.perm_ext_iff_of_nodup distinct (wf.nodup_candidates ref)]
  exact fun m => wf.mem_meanings_iff

theorem length_candidates_le_one (wf : c.WellFormed) (grouped : ref.group ≠ "") :
    (c.candidates ref).length ≤ 1 := by
  have same : ∀ m ∈ c.candidates ref, m.group = ref.group := fun m member =>
    (wf.mem_candidates_iff.mp member).2.1.resolve_left grouped
  have apart := wf.candidates_groups ref
  match c.candidates ref,same,apart with
  | [],_,_ => simp
  | [_],_,_ => simp
  | first :: second :: _,same,apart =>
    have differs := (List.pairwise_cons.mp apart).1 second List.mem_cons_self
    exact absurd ((same first (by simp)).trans (same second (by simp)).symm) differs

theorem resolve_of_no_meaning (wf : c.WellFormed) (unknown : c.meanings ref = []) :
    c.resolve preferred ref = .error (.resourceNotFound ref.groupResource) := by
  have nothing : c.candidates ref = [] := List.nil_perm.mp (unknown ▸ wf.perm_meanings ref)
  rw [resolve,nothing]

theorem resolve_of_one_meaning (wf : c.WellFormed) {m : Mapping} (one : c.meanings ref = [m]) :
    c.resolve preferred ref = .ok m := by
  have only : c.candidates ref = [m] :=
    (List.singleton_perm.mp (one ▸ wf.perm_meanings ref)).symm
  rw [resolve,only]

theorem resolve_of_preferred (wf : c.WellFormed) {m : Mapping} (member : m ∈ c.meanings ref)
    {before after : List String} (chosen : preferred = before ++ m.group :: after)
    (skipped : ∀ group ∈ before, ∀ other ∈ c.meanings ref, other.group ≠ group) :
    c.resolve preferred ref = .ok m := by
  simp only [wf.mem_meanings_iff] at member skipped
  exact wf.resolve_eq_ok_iff.mpr ⟨member,.inr ⟨before,after,chosen,skipped⟩⟩

theorem resolve_of_undecided (wf : c.WellFormed) (several : 2 ≤ (c.meanings ref).length)
    (undecided : ∀ m ∈ c.meanings ref, m.group ∉ preferred) :
    c.resolve preferred ref = .error (.ambiguous ref.groupResource
      (Order.sortStable id ((c.meanings ref).map fun m => m.groupResource.text))) := by
  have perm := wf.perm_meanings ref
  rw [perm.length_eq] at several
  rw [Order.sortStable_id_of_perm (perm.map fun m => m.groupResource.text)]
  unfold resolve
  split
  · rename_i nothing
    simp [nothing] at several
  · rename_i only one
    simp [one] at several
  · have missed : (preferred.findSome? fun group =>
        (c.candidates ref).find? fun m => m.group = group) = none := by
      simp only [List.findSome?_eq_none_iff,List.find?_eq_none,decide_eq_true_eq]
      rintro _ listed m member rfl
      exact undecided m (wf.mem_meanings_iff.mpr member) listed
    rw [missed]

theorem resolve_ne_ambiguous (wf : c.WellFormed) (grouped : ref.group ≠ "") (gr : GroupResource)
    (names : List String) : c.resolve preferred ref ≠ .error (.ambiguous gr names) := by
  have few := (wf.perm_meanings ref).length_eq.trans_le (wf.length_candidates_le_one grouped)
  match means : c.meanings ref,few with
  | [],_ => simp [wf.resolve_of_no_meaning means]
  | [m],_ => simp [wf.resolve_of_one_meaning means]

end WellFormed

/-- A reference is resolved by its meanings: to nothing if it has none, to its only one, or to the one
in the first preferred group that has one. Where several are left and no preference decides, the
fault lists them all in sorted order, which cannot happen to a reference with a group. -/
theorem build_resolve_meanings (singularize : String → String) (generation : Nat)
    (reports : List ResourceReport) (preferred : List String) (ref : ResourceReference) :
    let c := (build singularize generation reports).1
    let resolved := c.resolve preferred ref
    let meanings := c.meanings ref
    (meanings = [] → resolved = .error (.resourceNotFound ⟨ref.group,ref.resource⟩)) ∧
    (∀ m, meanings = [m] → resolved = .ok m) ∧
    (2 ≤ meanings.length →
      (∀ m before after, m ∈ meanings → preferred = before ++ m.group :: after →
        (∀ group ∈ before, ∀ other ∈ meanings, other.group ≠ group) → resolved = .ok m) ∧
      ((∀ m ∈ meanings, m.group ∉ preferred) → ∃ names : List String,
        names.Pairwise (fun a b => a ≤ b) ∧
        names.Perm (meanings.map fun m =>
          if m.group = "" then m.plural else m.plural ++ "." ++ m.group) ∧
        resolved = .error (.ambiguous ⟨ref.group,ref.resource⟩ names))) ∧
    (ref.group ≠ "" → ∀ gr names, resolved ≠ .error (.ambiguous gr names)) := by
  intro c resolved meanings
  have wf : c.WellFormed := wellFormed_build singularize generation reports
  refine ⟨wf.resolve_of_no_meaning,fun m => wf.resolve_of_one_meaning,fun several => ⟨?_,?_⟩,
    wf.resolve_ne_ambiguous⟩
  · intro m before after member chosen skipped
    exact wf.resolve_of_preferred member chosen skipped
  · intro undecided
    refine ⟨_,?_,Order.perm_sortStable id _,wf.resolve_of_undecided several undecided⟩
    exact (Order.stablySorted_sortStable id _).ordered

end Catalog

end ObjectMetrics
