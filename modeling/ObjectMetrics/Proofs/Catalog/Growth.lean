import ObjectMetrics.Proofs.Catalog.Kinds
import ObjectMetrics.Proofs.Catalog.Listing

/-! Listings that grow. A further report adds a version to a mapping or leaves it alone, and it takes no
kind away from the resource that stands for it. So whatever a listing has settled stays settled. -/
namespace ObjectMetrics

namespace Mapping

/-- The second mapping is the first one, with more versions after those that it has. -/
def Grows (m n : Mapping) : Prop :=
  ∃ more, n = { m with laterVersions := m.laterVersions ++ more }

namespace Grows

theorem refl (m : Mapping) : m.Grows m := ⟨[],by simp⟩

theorem trans {m n o : Mapping} (first : m.Grows n) (second : n.Grows o) : m.Grows o := by
  obtain ⟨more,rfl⟩ := first
  obtain ⟨later,rfl⟩ := second
  exact ⟨more ++ later,by simp⟩

theorem extend (singularize : String → String) (m : Mapping) (r : ResourceReport) :
    m.Grows (Mapping.extend singularize (some m) r) := by
  dsimp only [Mapping.extend,addVersion]
  split
  · split
    · exact .refl m
    · exact ⟨[r.version],rfl⟩
  · exact .refl m

variable {m n : Mapping}

theorem groupResource (grows : m.Grows n) : n.groupResource = m.groupResource := by
  obtain ⟨more,rfl⟩ := grows
  rfl

theorem groupVersionKind (grows : m.Grows n) : n.groupVersionKind = m.groupVersionKind := by
  obtain ⟨more,rfl⟩ := grows
  rfl

theorem groupKind (grows : m.Grows n) : n.groupKind = m.groupKind := by
  obtain ⟨more,rfl⟩ := grows
  rfl

theorem versions_prefix (grows : m.Grows n) : m.versions <+: n.versions := by
  obtain ⟨more,rfl⟩ := grows
  exact ⟨more,by simp [versions]⟩

end Grows

end Mapping

namespace CatalogDraft

variable {singularize : String → String} {d e : CatalogDraft}

/-- The second draft has every mapping of the first, perhaps grown, and every kind in its place. -/
structure Extends (d e : CatalogDraft) : Prop where
  mapping : ∀ gr m, d.get? gr = some m → ∃ n, e.get? gr = some n ∧ m.Grows n
  owner : ∀ gk gr, kindOwner? d.kinds gk = some gr → kindOwner? e.kinds gk = some gr

theorem Extends.refl (d : CatalogDraft) : d.Extends d :=
  ⟨fun _ m found => ⟨m,found,.refl m⟩,fun _ _ owned => owned⟩

theorem Extends.trans {f : CatalogDraft} (first : d.Extends e) (second : e.Extends f) :
    d.Extends f := by
  refine ⟨fun gr m found => ?_,fun gk gr owned => second.owner gk gr (first.owner gk gr owned)⟩
  obtain ⟨n,there,grown⟩ := first.mapping gr m found
  obtain ⟨o,still,later⟩ := second.mapping gr n there
  exact ⟨o,still,grown.trans later⟩

theorem extends_add (d : CatalogDraft) (r : ResourceReport) : d.Extends (d.add singularize r) := by
  refine ⟨fun gr m found => ?_,fun gk gr owned => ?_⟩
  · rw [get?_add,found]
    split
    · exact ⟨_,rfl,.extend singularize m r⟩
    · exact ⟨m,rfl,.refl m⟩
  · rw [owner?_add,owned]
    rfl

theorem extends_foldl (reports : List ResourceReport) (d : CatalogDraft) :
    d.Extends (reports.foldl (add singularize) d) := by
  induction reports generalizing d with
  | nil => exact .refl d
  | cons r reports ih => exact (d.extends_add r).trans (ih (d.add singularize r))

theorem extends_append (reports more : List ResourceReport) (d : CatalogDraft) :
    (reports.foldl (add singularize) d).Extends ((reports ++ more).foldl (add singularize) d) := by
  rw [List.foldl_append]
  exact extends_foldl more _

/-- A mapping after a report is one from before, perhaps grown, or the first of its resource. -/
theorem get?_add_eq_some {r : ResourceReport} {gr : GroupResource} {n : Mapping}
    (found : (d.add singularize r).get? gr = some n) :
    (∃ m, d.get? gr = some m ∧ m.Grows n) ∨
      (r.isResource ∧ d.get? r.groupResource = none ∧ r.groupResource = gr ∧
        n = .ofReport singularize r) := by
  rw [get?_add] at found
  split at found
  · rename_i hit
    obtain ⟨resource,rfl⟩ := hit
    obtain rfl := Option.some.inj found
    cases known : d.get? r.groupResource with
    | some m => exact .inl ⟨m,rfl,.extend singularize m r⟩
    | none => exact .inr ⟨resource,rfl,rfl,rfl⟩
  · exact .inl ⟨n,found,.refl n⟩

/-- Every mapping's kind has a resource that stands for it, and that resource is of this kind. -/
structure KindsSettled (d : CatalogDraft) : Prop where
  owned : ∀ gr m, d.get? gr = some m → ∃ owner, kindOwner? d.kinds m.groupKind = some owner
  mapped : ∀ gk owner, kindOwner? d.kinds gk = some owner →
    ∃ m, d.get? owner = some m ∧ m.groupKind = gk

theorem kindsSettled_empty : empty.KindsSettled :=
  ⟨fun _ _ found => by contradiction,fun _ _ owned => by contradiction⟩

theorem KindsSettled.add (settled : d.KindsSettled) (r : ResourceReport) :
    (d.add singularize r).KindsSettled := by
  have longer : d.Extends (d.add singularize r) := d.extends_add r
  refine ⟨fun gr n found => ?_,fun gk owner owned => ?_⟩
  · obtain ⟨m,known,grown⟩ | ⟨resource,absent,_,rfl⟩ := get?_add_eq_some found
    · obtain ⟨owner,owned⟩ := settled.owned gr m known
      exact ⟨owner,longer.owner _ _ (grown.groupKind ▸ owned)⟩
    · -- the report's kind is taken already, or its own resource takes it now
      have kind : (Mapping.ofReport singularize r).groupKind = r.groupKind := rfl
      rw [kind,owner?_add,if_pos ⟨resource,absent,rfl⟩]
      cases kindOwner? d.kinds r.groupKind with
      | some owner => exact ⟨owner,rfl⟩
      | none => exact ⟨r.groupResource,rfl⟩
  · rw [owner?_add,Option.or_eq_some_iff] at owned
    obtain before | ⟨_,now⟩ := owned
    · obtain ⟨m,known,kind⟩ := settled.mapped gk owner before
      obtain ⟨n,there,grown⟩ := longer.mapping owner m known
      exact ⟨n,there,grown.groupKind.trans kind⟩
    · obtain ⟨⟨resource,absent,rfl⟩,self⟩ := Option.ite_none_right_eq_some.mp now
      obtain rfl := Option.some.inj self
      refine ⟨.ofReport singularize r,?_,rfl⟩
      rw [get?_add,if_pos ⟨resource,rfl⟩,absent]
      rfl

theorem KindsSettled.foldl (settled : d.KindsSettled) (reports : List ResourceReport) :
    (reports.foldl (CatalogDraft.add singularize) d).KindsSettled := by
  induction reports generalizing d with
  | nil => exact settled
  | cons r reports ih => exact ih (settled.add r)

end CatalogDraft

namespace Catalog

theorem ofKind_of_owner {c : Catalog} {gk : GroupKind} {owner : GroupResource} {m : Mapping}
    (owned : kindOwner? c.kinds gk = some owner) (found : c.get? owner = some m) :
    c.ofKind gk = .ok m := by
  rw [ofKind_eq,owned,Option.bind_some,found]

theorem kindsSettled_build (singularize : String → String) (reports : List ResourceReport) :
    (reports.foldl (CatalogDraft.add singularize) CatalogDraft.empty).KindsSettled :=
  CatalogDraft.kindsSettled_empty.foldl reports

variable {singularize : String → String} {generation : Nat} {reports : List ResourceReport}
  {gr : GroupResource} {m : Mapping}

theorem get?_build_append (found : (build singularize generation reports).1.get? gr = some m)
    (later : Nat) (more : List ResourceReport) :
    ∃ n, (build singularize later (reports ++ more)).1.get? gr = some n ∧ m.Grows n :=
  (CatalogDraft.extends_append reports more .empty).mapping gr m found

theorem ofKind_build_append (found : (build singularize generation reports).1.get? gr = some m)
    (later : Nat) (more : List ResourceReport) :
    ∃ old new, (build singularize generation reports).1.ofKind m.groupKind = .ok old ∧
      (build singularize later (reports ++ more)).1.ofKind m.groupKind = .ok new ∧ old.Grows new := by
  have settled := kindsSettled_build singularize reports
  obtain ⟨owner,owned⟩ := settled.owned gr m found
  obtain ⟨old,mapped,_⟩ := settled.mapped m.groupKind owner owned
  have longer := @CatalogDraft.extends_append singularize reports more .empty
  obtain ⟨new,there,grown⟩ := longer.mapping owner old mapped
  exact ⟨old,new,ofKind_of_owner owned mapped,ofKind_of_owner (longer.owner _ _ owned) there,grown⟩

end Catalog

end ObjectMetrics
