import ObjectMetrics.Proofs.Ingestion.Target

/-! The forms of a path. A path has a target exactly if it is, apart from the slashes around it, one of
the spellings of that target, and of no other; words such as `namespaces` may be names in it. -/
namespace ObjectMetrics.WriteTarget

/-- The segments of the paths to a target: one path for a target in a namespace, and two for any
other. -/
inductive Spells : List String → WriteTarget → Prop
  | inNamespace (ns resource name metric : String) :
      Spells ["namespaces",ns,resource,name,metric] ⟨resource,ns,name,metric⟩
  | marked (resource name metric : String) :
      Spells [resource,name,"metrics",metric] ⟨resource,"",name,metric⟩
  | short (resource name metric : String) : Spells [resource,name,metric] ⟨resource,"",name,metric⟩

theorem ofSegments?_eq_some_iff {parts : List String} {t : WriteTarget} :
    ofSegments? parts = some t ↔ Spells parts t := by
  constructor
  · intro read
    unfold ofSegments? at read
    split at read <;> simp only [Option.some.injEq,reduceCtorEq] at read <;> subst read
    · exact .inNamespace _ _ _ _
    · exact .marked _ _ _
    · exact .short _ _ _
  · intro spelled
    cases spelled <;> simp [ofSegments?]

theorem Spells.ne_nil {parts : List String} {t : WriteTarget} (spelled : Spells parts t) :
    parts ≠ [] := by
  cases spelled <;> exact List.cons_ne_nil _ _

theorem slash_not_mem_segments {path part : String} (member : part ∈ segments path) :
    '/' ∉ part.toList := by
  obtain ⟨piece,cut,rfl⟩ := List.mem_map.mp member
  rw [String.toList_ofList]
  exact Text.not_mem_of_mem_splitAll cut

theorem exists_slashes (path : String) : ∃ lead trail,
    path = slashes lead ++ "/".intercalate (segments path) ++ slashes trail := by
  obtain ⟨front,back,parts,before,behind⟩ := Text.exists_padding (· = '/') path.toList
  have only {cs : List Char} (all : ∀ c ∈ cs, decide (c = '/')) :
      cs = List.replicate cs.length '/' :=
    List.eq_replicate_iff.mpr ⟨rfl,fun c member => of_decide_eq_true (all c member)⟩
  refine ⟨front.length,back.length,String.toList_injective ?_⟩
  have pieces : (segments path).map String.toList =
      Text.splitAll '/' (Text.stripBoth (· = '/') path.toList) := by
    rw [segments,List.map_map]
    simp [Function.comp_def]
  rw [String.toList_append,String.toList_append,String.toList_intercalate,pieces,toList_slashes,
    toList_slashes,← only before,← only behind]
  exact (Text.intercalate_splitAll (Text.stripBoth (· = '/') path.toList)).symm ▸ parts

theorem ofPath?_of_double_slash {path : String}
    (doubled : ['/','/'] <:+: Text.stripBoth (· = '/') path.toList) : ofPath? path = none := by
  obtain ⟨front,back,joined⟩ := doubled
  have empty : "" ∈ segments path := by
    rw [segments,← joined,List.append_assoc]
    apply List.mem_map.mpr
    refine ⟨[],?_,rfl⟩
    change [] ∈ Text.splitAll '/' (front ++ '/' :: ('/' :: back))
    rw [Text.splitAll_append_cons]
    exact List.mem_append_right _ List.mem_cons_self
  rw [ofPath?,if_pos (List.contains_iff_mem.mpr empty)]

/-- A path has a target exactly if it is one of that target's forms with slashes around it, however the
names in it read. Two slashes within a path leave it without a target. -/
theorem ofPath?_forms (path : String) :
    (∀ t, ofPath? path = some t ↔ ∃ parts lead trail,
      Spells parts t ∧ (∀ part ∈ parts, IsSegment part) ∧
      path = slashes lead ++ "/".intercalate parts ++ slashes trail) ∧
    (['/','/'] <:+: Text.stripBoth (· = '/') path.toList → ofPath? path = none) := by
  refine ⟨fun t => ⟨fun read => ?_,?_⟩,ofPath?_of_double_slash⟩
  · unfold ofPath? at read
    split at read
    · contradiction
    rename_i filled
    obtain ⟨lead,trail,joined⟩ := exists_slashes path
    refine ⟨segments path,lead,trail,ofSegments?_eq_some_iff.mp read,fun part member => ?_,joined⟩
    refine ⟨?_,slash_not_mem_segments member⟩
    rintro rfl
    exact filled (List.contains_iff_mem.mpr member)
  · rintro ⟨parts,lead,trail,spelled,proper,rfl⟩
    rw [ofPath?_padded spelled.ne_nil proper]
    exact ofSegments?_eq_some_iff.mpr spelled

theorem ofPath?_forms_marks_as_names :
    ofPath? "//namespaces/metrics/namespaces/metrics/namespaces/" =
      some ⟨"namespaces","metrics","metrics","namespaces"⟩ ∧
    ofPath? "namespaces/metrics/metrics/namespaces" =
      some ⟨"namespaces","","metrics","namespaces"⟩ ∧
    ofPath? "metrics/namespaces/metrics//" = some ⟨"metrics","","namespaces","metrics"⟩ ∧
    ['/','/'] <:+: Text.stripBoth (· = '/') "/namespaces//metrics/namespaces".toList ∧
    ofPath? "/namespaces//metrics/namespaces" = none := by
  have doubled : ['/','/'] <:+: Text.stripBoth (· = '/') "/namespaces//metrics/namespaces".toList :=
    by decide +kernel
  refine ⟨?_,?_,?_,doubled,(ofPath?_forms _).2 doubled⟩
  · exact ((ofPath?_forms _).1 _).mpr ⟨_,2,1,.inNamespace _ _ _ _,by decide,by decide⟩
  · exact ((ofPath?_forms _).1 _).mpr ⟨_,0,0,.marked _ _ _,by decide,by decide⟩
  · exact ((ofPath?_forms _).1 _).mpr ⟨_,0,2,.short _ _ _,by decide,by decide⟩

end ObjectMetrics.WriteTarget
