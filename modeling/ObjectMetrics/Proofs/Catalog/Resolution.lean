import ObjectMetrics.Proofs.Catalog.Names

/-! What a reference may mean in a well-formed catalog, and which of several meanings is taken. -/
namespace ObjectMetrics.Catalog

theorem fault_of_resolve {c : Catalog} {preferred : List String} {ref : ResourceReference}
    {fault : Fault} (failed : c.resolve preferred ref = .error fault) :
    fault = if c.candidates ref = [] then .resourceNotFound ref.groupResource else
      .ambiguous ref.groupResource
        (Order.sortStable id ((c.candidates ref).map fun m => m.groupResource.text)) := by
  unfold resolve at failed
  split at failed
  · rename_i none
    rw [if_pos none]
    exact (Except.error.inj failed).symm
  · contradiction
  · rename_i nonempty several
    rw [if_neg nonempty]
    split at failed
    · contradiction
    · exact (Except.error.inj failed).symm

theorem get?_of_resolve {c : Catalog} {preferred : List String} {ref : ResourceReference} {m : Mapping}
    (resolved : c.resolve preferred ref = .ok m) : c.get? m.groupResource = some m := by
  have candidate : m ∈ c.candidates ref := by
    unfold resolve at resolved
    split at resolved
    · contradiction
    · rename_i only one
      obtain rfl := Except.ok.inj resolved
      simp [one]
    · split at resolved
      · rename_i other chosen
        obtain rfl := Except.ok.inj resolved
        obtain ⟨group,_,found⟩ := List.exists_of_findSome?_eq_some chosen
        exact List.mem_of_find?_eq_some found
      · contradiction
  obtain ⟨owned,_⟩ := List.mem_filter.mp candidate
  obtain ⟨gr,_,found⟩ := List.mem_filterMap.mp owned
  have key : m.groupResource = gr := by simpa using List.find?_some found
  rw [key,found]

namespace WellFormed

variable {c : Catalog}

theorem mem_names_iff (wf : c.WellFormed) {word : String} {gr : GroupResource} :
    (word,gr) ∈ c.names ↔ ∃ m, c.Names word m ∧ m.groupResource = gr := by
  rw [wf.published]
  simp only [publishedNames,List.mem_append,List.mem_map,List.mem_filter,Prod.mk.injEq]
  constructor
  · rintro (⟨m,member,plural,same⟩ | ⟨m,⟨member,alone⟩,singular,same⟩)
    · exact ⟨m,⟨member,.inl plural⟩,same⟩
    · have only := (wf.table.alias_iff member).mp alone
      exact ⟨m,⟨member,.inr ⟨singular,singular ▸ only⟩⟩,same⟩
  · rintro ⟨m,⟨member,plural | ⟨singular,only⟩⟩,same⟩
    · exact .inl ⟨m,member,plural,same⟩
    · have alone := (wf.table.alias_iff member).mpr (singular ▸ only)
      exact .inr ⟨m,⟨member,alone⟩,singular,same⟩

theorem mem_candidates_iff (wf : c.WellFormed) {ref : ResourceReference} {m : Mapping} :
    m ∈ c.candidates ref ↔ c.Names (Text.lower ref.resource) m ∧
      (ref.group = "" ∨ m.group = ref.group) ∧ m.serves ref.version := by
  simp only [candidates,List.mem_filter,List.mem_filterMap,Prod.exists,
    Option.ite_none_right_eq_some,Bool.and_eq_true,Bool.or_eq_true,decide_eq_true_eq,
    Option.some.injEq]
  constructor
  · rintro ⟨⟨gr,⟨_,_,published,⟨rfl,group⟩,rfl⟩,found⟩,serves⟩
    obtain ⟨other,named,same⟩ := wf.mem_names_iff.mp published
    obtain ⟨member,key⟩ := wf.get?_eq_some_iff.mp found
    obtain rfl := wf.table.eq_of_groupResource member named.1 (key.trans same.symm)
    subst key
    exact ⟨named,group,serves⟩
  · rintro ⟨named,group,serves⟩
    have published := wf.mem_names_iff.mpr ⟨m,named,rfl⟩
    have found := wf.get?_eq_some_iff.mpr ⟨named.1,rfl⟩
    exact ⟨⟨m.groupResource,⟨_,_,published,⟨rfl,group⟩,rfl⟩,found⟩,serves⟩

theorem nodup_names (wf : c.WellFormed) : c.names.Nodup := by
  have keyed {ms : List Mapping} (name : Mapping → String)
      (distinct : (ms.map Mapping.groupResource).Nodup) :
      (ms.map fun m => (name m,m.groupResource)).Nodup := by
    apply List.Nodup.of_map Prod.snd
    simpa [List.map_map,Function.comp_def] using distinct
  rw [wf.published,publishedNames,List.nodup_append]
  refine ⟨keyed _ wf.table.distinct,keyed _ ?_,?_⟩
  · exact wf.table.distinct.sublist (List.filter_sublist.map _)
  · rintro entry plural _ singular rfl
    obtain ⟨m,member,rfl⟩ := List.mem_map.mp plural
    obtain ⟨other,filtered,same⟩ := List.mem_map.mp singular
    obtain ⟨there,alone⟩ := List.mem_filter.mp filtered
    obtain ⟨name,key⟩ := Prod.mk.inj same
    obtain rfl := wf.table.eq_of_groupResource there member key
    exact (((wf.table.alias_iff there).mp alone) other there rfl).1 name.symm

/-- The candidates are of different groups, so a preferred group decides for one of them. -/
theorem candidates_groups (wf : c.WellFormed) (ref : ResourceReference) :
    (c.candidates ref).Pairwise fun m other => m.group ≠ other.group := by
  have keys : (c.candidates ref).Pairwise fun m other => m.groupResource ≠ other.groupResource := by
    apply List.Pairwise.filter
    apply List.Pairwise.filterMap (R := fun gr other => gr ≠ other) c.get?
    · intro gr other apart m found n there
      rw [(wf.get?_eq_some_iff.mp found).2,(wf.get?_eq_some_iff.mp there).2]
      exact apart
    · refine List.Pairwise.filterMap _ ?_ wf.nodup_names
      rintro ⟨word,gr⟩ ⟨name,other⟩ apart b found b' there
      simp only [Option.ite_none_right_eq_some,Bool.and_eq_true,decide_eq_true_eq,
        Option.some.injEq] at found there
      obtain ⟨⟨rfl,_⟩,rfl⟩ := found
      obtain ⟨⟨rfl,_⟩,rfl⟩ := there
      simpa using apart
  apply keys.imp_of_mem
  intro m other member there apart group
  have first := (wf.mem_candidates_iff.mp member).1
  have second := (wf.mem_candidates_iff.mp there).1
  exact apart (congrArg _ (wf.names_unique first second group))

private theorem findSome?_group_iff {ms : List Mapping} {preferred : List String} {m : Mapping}
    (apart : ms.Pairwise fun m other => m.group ≠ other.group) :
    (preferred.findSome? fun group => ms.find? fun m => m.group = group) = some m ↔
      m ∈ ms ∧ ∃ before after, preferred = before ++ m.group :: after ∧
        ∀ group ∈ before, ∀ other ∈ ms, other.group ≠ group := by
  have decides {group : String} {other : Mapping} :
      ms.find? (fun m => m.group = group) = some other ↔ other ∈ ms ∧ other.group = group :=
    Order.find?_eq_some_iff (List.pairwise_map.mpr apart)
  have missing {group : String} :
      ms.find? (fun m => m.group = group) = none ↔ ∀ other ∈ ms, other.group ≠ group := by
    simp
  simp only [List.findSome?_eq_some_iff,decides,missing]
  constructor
  · rintro ⟨before,_,after,rfl,⟨member,rfl⟩,skipped⟩
    exact ⟨member,before,after,rfl,skipped⟩
  · rintro ⟨member,before,after,rfl,skipped⟩
    exact ⟨before,m.group,after,rfl,⟨member,rfl⟩,skipped⟩

private theorem not_alone {ms : List Mapping} (m : Mapping)
    (apart : ms.Pairwise fun m other => m.group ≠ other.group) (nonempty : ms ≠ [])
    (several : ∀ only, ms ≠ [only]) : ¬ ∀ other ∈ ms, other = m := by
  intro alone
  match ms,apart,nonempty,several,alone with
  | [],_,nonempty,_,_ => exact nonempty rfl
  | [only],_,_,several,_ => exact several only rfl
  | first :: second :: _,apart,_,_,alone =>
    have groups := (List.pairwise_cons.mp apart).1 second List.mem_cons_self
    rw [alone first (by simp),alone second (by simp)] at groups
    exact groups rfl

/-- A reference means its only candidate, or the one of the first preferred group that has one. -/
theorem resolve_eq_ok_iff (wf : c.WellFormed) {preferred : List String} {ref : ResourceReference}
    {m : Mapping} :
    c.resolve preferred ref = .ok m ↔ m ∈ c.candidates ref ∧
      ((∀ other ∈ c.candidates ref, other = m) ∨
        ∃ before after, preferred = before ++ m.group :: after ∧
          ∀ group ∈ before, ∀ other ∈ c.candidates ref, other.group ≠ group) := by
  have apart := wf.candidates_groups ref
  unfold resolve
  split
  · rename_i none
    simp [none]
  · rename_i only one
    simp only [one,Except.ok.injEq,List.mem_singleton,forall_eq]
    constructor
    · rintro rfl
      exact ⟨rfl,.inl rfl⟩
    · rintro ⟨same,_⟩
      exact same.symm
  · rename_i nonempty several
    rw [or_iff_right (not_alone m apart nonempty several),← findSome?_group_iff apart]
    split
    · rename_i other found
      rw [found,Except.ok.injEq,Option.some.injEq]
    · rename_i none
      rw [none]
      simp

/-- A reference that gives a mapping's group and one of its names means that mapping, with the core
group preferred to all others if the mapping is in it. -/
theorem resolve_of_names (wf : c.WellFormed) {preferred : List String} {ref : ResourceReference}
    {m : Mapping} (named : c.Names (Text.lower ref.resource) m) (group : ref.group = m.group)
    (serves : m.serves ref.version) (decided : m.group ≠ "" ∨ preferred.head? = some "") :
    c.resolve preferred ref = .ok m := by
  have candidate : m ∈ c.candidates ref :=
    wf.mem_candidates_iff.mpr ⟨named,.inr group.symm,serves⟩
  refine wf.resolve_eq_ok_iff.mpr ⟨candidate,?_⟩
  by_cases core : m.group = ""
  · obtain ⟨after,rfl⟩ := List.head?_eq_some_iff.mp (decided.resolve_left (not_not_intro core))
    exact .inr ⟨[],after,by rw [core]; rfl,by simp⟩
  · refine .inl fun other there => ?_
    obtain ⟨names,same,_⟩ := wf.mem_candidates_iff.mp there
    have grouped : other.group = m.group := by simpa [group,core] using same
    exact wf.names_unique names named grouped

end WellFormed

end ObjectMetrics.Catalog
