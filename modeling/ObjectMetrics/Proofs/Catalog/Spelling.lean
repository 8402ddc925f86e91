import Mathlib.Data.List.Induction
import ObjectMetrics.Proofs.Catalog.Normalization

/-! The spellings of a known resource. Its plural and its singular, in any letter case, mean the same
mapping, provided that no other resource of its group lays claim to the singular. -/
namespace ObjectMetrics

namespace Text

theorem lower_eq_self_iff {s : String} : lower s = s ↔ ∀ c ∈ s.toList, c.toLower = c := by
  have kept : (lower s).toList = s.toList ↔ s.toList.map Char.toLower = s.toList.map id := by
    rw [toList_lower,List.map_id]
  rw [← String.toList_inj,kept,List.map_inj_left]
  rfl

end Text

/-! Singular names are in small letters, wherever they come from. -/

theorem mem_singularBackwards {c : Char} {word : List Char} (member : c ∈ singularBackwards word) :
    c = 'y' ∨ c ∈ word := by
  unfold singularBackwards at member
  split at member <;> grind

namespace Inflection

theorem lower_regularSingular {word : String} (folded : Text.lower word = word) :
    Text.lower (regularSingular word) = regularSingular word := by
  rw [Text.lower_eq_self_iff] at folded ⊢
  intro c member
  have spelled : c ∈ singularBackwards word.toList.reverse := by simpa [regularSingular] using member
  rcases mem_singularBackwards spelled with rfl | inside
  · rfl
  · exact folded c (List.mem_reverse.mp inside)

theorem lower_of_mem_ofList {entries : List (String × String)} {entry : String × String}
    (member : entry ∈ (ofList entries).irregular) : Text.lower entry.2 = entry.2 := by
  induction entries using List.reverseRecOn with
  | nil => contradiction
  | append_singleton entries last ih =>
    -- The last entry of the list stands first in the table, before the older ones.
    rw [ofList,List.foldl_append] at member
    rcases List.mem_cons.mp member with rfl | older
    · exact Text.lower_lower last.2
    · exact ih older

theorem lower_singular (entries : List (String × String)) (word : String) :
    Text.lower ((ofList entries).singular word) = (ofList entries).singular word := by
  rw [singular]
  split
  · rename_i entry found
    exact lower_of_mem_ofList (List.mem_of_find?_eq_some found)
  · exact lower_regularSingular (Text.lower_lower word)

end Inflection

theorem ResourceReport.lower_singularName {singularize : String → String}
    (folded : ∀ word, Text.lower (singularize word) = singularize word) (r : ResourceReport) :
    Text.lower (r.singularName singularize) = r.singularName singularize := by
  rw [singularName]
  split
  · rw [Text.lower_lower]
  · split
    · rw [Text.lower_lower]
    · exact folded r.plural

theorem Mapping.singular_addVersion (m : Mapping) (version : String) :
    (m.addVersion version).singular = m.singular := by
  unfold addVersion
  split <;> rfl

/-- What holds of the mappings of first reports, and is kept as versions are added, holds of every
mapping. -/
theorem CatalogDraft.forall_mappings_foldl {singularize : String → String} {P : Mapping → Prop}
    (first : ∀ r, P (.ofReport singularize r)) (later : ∀ m version, P m → P (m.addVersion version))
    (reports : List ResourceReport) {d : CatalogDraft} (holds : ∀ m ∈ d.mappings, P m) :
    ∀ m ∈ (reports.foldl (add singularize) d).mappings, P m := by
  induction reports generalizing d with
  | nil => exact holds
  | cons r reports ih =>
    apply ih
    obtain same | ⟨m,_,_,changed⟩ | ⟨_,_,longer⟩ := d.mappings_add singularize r
    · rwa [same]
    · rw [changed,List.forall_mem_map]
      intro other there
      split
      · exact later other r.version (holds other there)
      · exact holds other there
    · rw [longer,List.forall_mem_append]
      exact ⟨holds,by simpa using first r⟩

namespace Catalog

theorem lower_singular_of_mem {singularize : String → String}
    (folded : ∀ word, Text.lower (singularize word) = singularize word) {generation : Nat}
    {reports : List ResourceReport} :
    ∀ m ∈ (build singularize generation reports).1.mappings, Text.lower m.singular = m.singular := by
  apply CatalogDraft.forall_mappings_foldl
  · exact ResourceReport.lower_singularName folded
  · intro m version small
    rw [m.singular_addVersion,small]
  · simp [CatalogDraft.empty]

namespace WellFormed

variable {c : Catalog} {preferred : List String} {m : Mapping}

theorem names_of_spelling (wf : c.WellFormed) (member : m ∈ c.mappings)
    (small : Text.lower m.singular = m.singular)
    (alone : ∀ other ∈ c.mappings, other.group = m.group → other ≠ m →
      other.plural ≠ m.singular ∧ other.singular ≠ m.singular)
    {word : String} (spelled : Text.SameSpelling word m.plural ∨ Text.SameSpelling word m.singular) :
    c.Names (Text.lower word) m := by
  rcases spelled with plural | singular
  · rw [plural,wf.table.folded m member]
    exact names_plural member
  · rw [singular,small]
    -- A singular that is also the plural is a name already, whoever else claims it.
    by_cases alike : m.plural = m.singular
    · exact ⟨member,.inl alike⟩
    · refine ⟨member,.inr ⟨rfl,fun other there group => ?_⟩⟩
      by_cases same : other = m
      · exact ⟨same ▸ alike,fun _ => same⟩
      · have free := alone other there group same
        exact ⟨free.1,fun shared => absurd shared free.2⟩

end WellFormed

/-- A request that names a resource by its group and by its plural or its singular, in any letter
case, is normalized to the resource's identity, provided that no other resource of the group has the
singular as a name, and that the core group, if it is the resource's, is preferred to all others. -/
theorem build_normalize_spelling (entries : List (String × String)) (generation : Nat)
    (reports : List ResourceReport) (preferred : List String) (m : Mapping)
    (member : m ∈ (build (Inflection.ofList entries).singular generation reports).1.mappings)
    (decided : m.group ≠ "" ∨ preferred.head? = some "")
    (alone : ∀ other ∈ (build (Inflection.ofList entries).singular generation reports).1.mappings,
      other.group = m.group → other ≠ m → other.plural ≠ m.singular ∧ other.singular ≠ m.singular)
    (word : String) (spelled : Text.SameSpelling word m.plural ∨ Text.SameSpelling word m.singular)
    (namespaced : Bool) (metric : String) :
    (build (Inflection.ofList entries).singular generation reports).1.normalize preferred
        ⟨⟨m.group,word⟩,namespaced,metric⟩ =
      .ok ⟨⟨m.groupResource,namespaced,metric⟩,m.singular,m.scope⟩ := by
  have wf := wellFormed_build (Inflection.ofList entries).singular generation reports
  have small := lower_singular_of_mem (Inflection.lower_singular entries) m member
  have named := wf.names_of_spelling member small alone spelled
  exact wf.normalize_eq_ok_iff.mpr ⟨m,wf.resolve_of_names named rfl rfl decided,rfl⟩

theorem build_normalize_spelling_shared :
    let reports : List ResourceReport := [⟨"lab","v1","pod",true,"PodSet",none⟩,
      ⟨"","v1","Pods",true,"Pod",none⟩,⟨"","v1","services",true,"Service",some "svc"⟩]
    let m : Mapping := ⟨"","pods","pod","Pod",.namespaced,"v1",[]⟩
    let c := (build Inflection.builtin.singular 1 reports).1
    m ∈ c.mappings ∧ Text.SameSpelling "POD" m.singular ∧
    c.normalize ["","lab"] ⟨⟨"","POD"⟩,true,"cpu"⟩ =
      .ok ⟨⟨⟨"","pods"⟩,true,"cpu"⟩,"pod",.namespaced⟩ := by
  intro reports m c
  have member : m ∈ c.mappings := by decide +kernel
  have alone : ∀ other ∈ c.mappings, other.group = m.group → other ≠ m →
      other.plural ≠ m.singular ∧ other.singular ≠ m.singular := by decide +kernel
  have spelled : Text.SameSpelling "POD" m.singular := by decide +kernel
  exact ⟨member,spelled,build_normalize_spelling _ 1 reports ["","lab"] m member (.inr rfl) alone "POD"
    (.inr spelled) true "cpu"⟩

end Catalog

end ObjectMetrics
