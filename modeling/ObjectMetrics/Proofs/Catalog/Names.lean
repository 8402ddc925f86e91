import Mathlib.Data.List.Nodup
import ObjectMetrics.Catalog.Build
import ObjectMetrics.Proofs.Order.Keyed

/-! Well-formed catalogs and the words that name their mappings. Within one group a word names one
mapping at most: the one with this plural, or else the only one with this singular. Every catalog
that is built from reports is well formed. -/
namespace ObjectMetrics

/-- Mappings with one entry for each group and plural, and with plurals in small letters. -/
structure MappingTable (ms : List Mapping) : Prop where
  distinct : (ms.map Mapping.groupResource).Nodup
  folded : ∀ m ∈ ms, Text.lower m.plural = m.plural

namespace MappingTable

theorem nil : MappingTable [] := ⟨List.nodup_nil,by simp⟩

theorem map {ms : List Mapping} (table : MappingTable ms) {f : Mapping → Mapping}
    (kept : ∀ m, (f m).groupResource = m.groupResource) : MappingTable (ms.map f) := by
  refine ⟨?_,?_⟩
  · rw [List.map_map,show Mapping.groupResource ∘ f = Mapping.groupResource from funext kept]
    exact table.distinct
  · intro m member
    obtain ⟨other,there,rfl⟩ := List.mem_map.mp member
    have plural : (f other).plural = other.plural := congrArg GroupResource.resource (kept other)
    rw [plural]
    exact table.folded other there

theorem append {ms : List Mapping} (table : MappingTable ms) {m : Mapping}
    (fresh : m.groupResource ∉ ms.map Mapping.groupResource)
    (folded : Text.lower m.plural = m.plural) : MappingTable (ms ++ [m]) := by
  refine ⟨?_,?_⟩
  · rw [List.map_append,List.nodup_append]
    refine ⟨table.distinct,by simp,?_⟩
    rintro gr there other member rfl
    obtain rfl : gr = m.groupResource := by simpa using member
    exact fresh there
  · intro other member
    rcases List.mem_append.mp member with old | new
    · exact table.folded other old
    · obtain rfl := List.mem_singleton.mp new
      exact folded

theorem eq_of_groupResource {ms : List Mapping} (table : MappingTable ms) {m other : Mapping}
    (member : m ∈ ms) (there : other ∈ ms) (same : m.groupResource = other.groupResource) :
    m = other :=
  List.inj_on_of_nodup_map table.distinct member there same

theorem eq_of_plural {ms : List Mapping} (table : MappingTable ms) {m other : Mapping}
    (member : m ∈ ms) (there : other ∈ ms) (group : m.group = other.group)
    (plural : m.plural = other.plural) : m = other :=
  table.eq_of_groupResource member there (by rw [Mapping.groupResource,group,plural]; rfl)

end MappingTable

namespace CatalogDraft

theorem mem_keys_iff {d : CatalogDraft} {gr : GroupResource} :
    gr ∈ d.mappings.map Mapping.groupResource ↔ d.get? gr ≠ none := by
  simp [get?,List.find?_eq_none]

@[simp] theorem mappings_claimKind (d : CatalogDraft) (gk : GroupKind) (gr : GroupResource) :
    (d.claimKind gk gr).mappings = d.mappings := by
  unfold claimKind
  split <;> rfl

/-- What a report does to the mappings: nothing, a version more, or a mapping more. -/
theorem mappings_add (singularize : String → String) (d : CatalogDraft) (r : ResourceReport) :
    (d.add singularize r).mappings = d.mappings ∨
    (∃ m, d.get? r.groupResource = some m ∧ m.agreesWith r ∧
      (d.add singularize r).mappings = d.mappings.map fun other =>
        if other.groupResource = m.groupResource then other.addVersion r.version else other) ∨
    (r.isResource ∧ d.get? r.groupResource = none ∧
      (d.add singularize r).mappings = d.mappings ++ [.ofReport singularize r]) := by
  unfold add
  split
  · rename_i resource
    split
    · rename_i m found
      unfold addVersion
      split
      · rename_i agrees
        exact .inr (.inl ⟨m,found,agrees,rfl⟩)
      · exact .inl rfl
    · rename_i none
      exact .inr (.inr ⟨resource,none,by simp [addMapping]⟩)
  · exact .inl rfl

end CatalogDraft

theorem Mapping.groupResource_addVersion (m : Mapping) (version : String) :
    (m.addVersion version).groupResource = m.groupResource := by
  unfold addVersion
  split <;> rfl

theorem mappingTable_add {singularize : String → String} {d : CatalogDraft}
    (table : MappingTable d.mappings) (r : ResourceReport) :
    MappingTable (d.add singularize r).mappings := by
  obtain same | ⟨m,_,_,changed⟩ | ⟨_,absent,longer⟩ := d.mappings_add singularize r
  · rw [same]
    exact table
  · rw [changed]
    apply table.map
    intro other
    split
    · exact other.groupResource_addVersion r.version
    · rfl
  · rw [longer]
    apply table.append
    · intro there
      exact CatalogDraft.mem_keys_iff.mp there absent
    · exact Text.lower_lower r.resource

theorem mappingTable_foldl {singularize : String → String} (reports : List ResourceReport)
    {d : CatalogDraft} (table : MappingTable d.mappings) :
    MappingTable (reports.foldl (CatalogDraft.add singularize) d).mappings := by
  induction reports generalizing d with
  | nil => exact table
  | cons r reports ih => exact ih (mappingTable_add table r)

/-- The condition for publishing a singular name, said of the mappings of its group one by one. -/
theorem MappingTable.alias_iff {ms : List Mapping} (table : MappingTable ms) {m : Mapping}
    (member : m ∈ ms) :
    (m.hasAlias && aliasIsUnique ms m.group m.singular) ↔ ∀ other ∈ ms, other.group = m.group →
      other.plural ≠ m.singular ∧ (other.singular = m.singular → other = m) := by
  have mem_owners (other : Mapping) : other ∈ aliasOwners ms m.group m.singular ↔
      other ∈ ms ∧ other.group = m.group ∧ other.singular = m.singular ∧ other.hasAlias := by
    simp [aliasOwners,and_assoc]
  simp only [aliasIsUnique,Bool.and_eq_true,decide_eq_true_eq,Bool.not_eq_true',
    List.any_eq_false,not_and]
  constructor
  · rintro ⟨hasAlias,few,free⟩ other there group
    have plural : other.plural ≠ m.singular := free other there group
    refine ⟨plural,fun singular => ?_⟩
    have owns : other ∈ aliasOwners ms m.group m.singular := by
      refine (mem_owners other).mpr ⟨there,group,singular,?_⟩
      simpa [Mapping.hasAlias,singular] using plural.symm
    have owned : m ∈ aliasOwners ms m.group m.singular :=
      (mem_owners m).mpr ⟨member,rfl,rfl,hasAlias⟩
    match owners : aliasOwners ms m.group m.singular,few with
    | [],_ => simp [owners] at owns
    | [owner],_ =>
      rw [owners,List.mem_singleton] at owns owned
      rw [owns,owned]
  · intro alone
    refine ⟨?_,?_,fun other there group => (alone other there group).1⟩
    · simpa [Mapping.hasAlias] using (alone m member rfl).1.symm
    · have once : (aliasOwners ms m.group m.singular).Nodup :=
        (List.Nodup.of_map _ table.distinct).filter _
      have same : ∀ other ∈ aliasOwners ms m.group m.singular, other = m := by
        intro other owns
        obtain ⟨there,group,singular,_⟩ := (mem_owners other).mp owns
        exact (alone other there group).2 singular
      rw [List.eq_replicate_of_mem same,List.nodup_replicate] at once
      exact once

namespace Catalog

structure WellFormed (c : Catalog) : Prop where
  table : MappingTable c.mappings
  published : c.names = publishedNames c.mappings

theorem wellFormed_build (singularize : String → String) (generation : Nat)
    (reports : List ResourceReport) : (build singularize generation reports).1.WellFormed :=
  ⟨mappingTable_foldl reports .nil,rfl⟩

theorem wellFormed_empty : empty.WellFormed := ⟨.nil,rfl⟩

/-- Whether a word, in small letters, names a mapping within its group. -/
def Names (c : Catalog) (word : String) (m : Mapping) : Prop :=
  m ∈ c.mappings ∧ (m.plural = word ∨ (m.singular = word ∧ ∀ other ∈ c.mappings,
    other.group = m.group → other.plural ≠ word ∧ (other.singular = word → other = m)))

namespace WellFormed

variable {c : Catalog}

theorem get?_eq_some_iff (wf : c.WellFormed) {gr : GroupResource} {m : Mapping} :
    c.get? gr = some m ↔ m ∈ c.mappings ∧ m.groupResource = gr :=
  Order.find?_eq_some_iff wf.table.distinct

theorem names_unique (wf : c.WellFormed) {word : String} {m other : Mapping}
    (first : c.Names word m) (second : c.Names word other) (group : m.group = other.group) :
    m = other := by
  obtain ⟨member,plural | ⟨_,only⟩⟩ := first
  · obtain ⟨there,same | ⟨_,alone⟩⟩ := second
    · exact wf.table.eq_of_plural member there group (plural.trans same.symm)
    · exact absurd plural (alone m member group).1
  · obtain ⟨there,same | ⟨singular,_⟩⟩ := second
    · exact absurd same (only other there group.symm).1
    · exact ((only other there group.symm).2 singular).symm

end WellFormed

theorem names_plural {c : Catalog} {m : Mapping} (member : m ∈ c.mappings) :
    c.Names m.plural m :=
  ⟨member,.inl rfl⟩

end Catalog

end ObjectMetrics
