import ObjectMetrics.Proofs.Label.Set
import ObjectMetrics.Proofs.Selector.Printing

/-! Label sets and their texts. Reading collects the equalities of a text in the order of their keys,
which is as good as their order in the text because equal keys keep theirs. The printed text of a set
is the printed text of its selector. -/

namespace ObjectMetrics.Order

variable {α β κ : Type} [LE κ] [DecidableEq κ]

theorem StablySorted.last?_eq {key : α → κ} {xs ys : List α} (sorted : StablySorted key xs ys)
    (k : κ) : last? key ys k = last? key xs k := by
  rw [← last?_filter key ys,← last?_filter key xs,sorted.alike]

/-- Sorting looks at keys only, so it may be done before or after an injection. -/
theorem stablySorted_map_iff {key : β → κ} {f : α → β} (inj : Function.Injective f) {xs ys : List α} :
    StablySorted key (xs.map f) (ys.map f) ↔ StablySorted (fun x => key (f x)) xs ys := by
  constructor
  · rintro ⟨ordered,alike⟩
    refine ⟨(List.pairwise_map (f := f)).mp ordered,fun k => ?_⟩
    have found := alike k
    simp only [List.filter_map] at found
    exact List.map_injective_iff.mpr inj found
  · rintro ⟨ordered,alike⟩
    refine ⟨List.pairwise_map.mpr ordered,fun k => ?_⟩
    simp only [List.filter_map]
    exact congrArg (List.map f) (alike k)

end ObjectMetrics.Order

namespace ObjectMetrics.LabelSet
open Label

def term (label : String × String) : Requirement := ⟨label.1,.equals label.2⟩

theorem term_injective : Function.Injective term := by
  rintro ⟨key,value⟩ ⟨other,worth⟩ same
  simpa [term] using same

/-- Requirements are labels exactly if all of them are equalities. -/
theorem exists_terms_iff {rs : List Requirement} :
    (∃ labels, List.map term labels = rs) ↔ ∀ r ∈ rs, ∃ value, r.condition = .equals value := by
  constructor
  · rintro ⟨labels,rfl⟩ r member
    obtain ⟨label,_,rfl⟩ := List.mem_map.mp member
    exact ⟨label.2,rfl⟩
  · intro equalities
    induction rs with
    | nil => exact ⟨[],rfl⟩
    | cons r rs ih =>
      obtain ⟨⟨value,equality⟩,others⟩ := List.forall_mem_cons.mp equalities
      obtain ⟨labels,rfl⟩ := ih others
      refine ⟨(r.key,value) :: labels,?_⟩
      rw [List.map_cons,term,← equality]

theorem equality_eq_ok {r : Requirement} {label : String × String} :
    equality r = .ok label ↔ r = term label := by
  obtain ⟨key,condition⟩ := r
  obtain ⟨name,value⟩ := label
  cases condition <;> simp [equality,term]

theorem mapM_equality_eq_ok {rs : List Requirement} {labels : List (String × String)} :
    rs.mapM equality = .ok labels ↔ rs = labels.map term := by
  induction rs generalizing labels with
  | nil =>
    rw [List.mapM_nil,eq_comm (a := ([] : List Requirement)),List.map_eq_nil_iff]
    simp [pure,Except.pure,eq_comm]
  | cons r rs ih =>
    rw [List.mapM_cons,eq_comm (a := r :: rs),List.map_eq_cons_iff]
    constructor
    · intro read
      cases first : equality r with
      | error flaw => simp [first,bind,Except.bind] at read
      | ok label =>
        cases others : rs.mapM equality with
        | error flaw => simp [first,others,bind,Except.bind] at read
        | ok rest =>
          have whole : label :: rest = labels := by
            simpa [first,others,bind,Except.bind,pure,Except.pure] using read
          exact ⟨label,rest,whole.symm,(equality_eq_ok.mp first).symm,(ih.mp others).symm⟩
    · rintro ⟨label,rest,rfl,first,others⟩
      rw [equality_eq_ok.mpr first.symm,ih.mpr others.symm]
      rfl

theorem ofList_of_stablySorted {written sorted : List (String × String)}
    (stable : Order.StablySorted Prod.fst written sorted) : ofList sorted = ofList written := by
  apply eq_of_get?
  intro key
  rw [get?_ofList,get?_ofList,stable.last?_eq]

theorem parse_eq_ok {raw : String} {labels : LabelSet} :
    parse raw = .ok labels ↔
      ∃ sorted, Selector.parse raw = .ok ⟨sorted.map term⟩ ∧ ofList sorted = labels := by
  unfold parse read Selector.parse
  cases Selector.read raw with
  | error flaw => simp [Except.mapError]
  | ok s =>
    obtain ⟨rs⟩ := s
    simp only [Except.mapError,Except.ok.injEq,Selector.mk.injEq,← mapM_equality_eq_ok]
    cases rs.mapM equality with
    | error flaw => simp [Except.map]
    | ok sorted => simp [Except.map]

/-- A label set is what the equalities of its text leave, taken from the left. -/
theorem parse_eq_ok_iff {raw : String} {labels : LabelSet} :
    parse raw = .ok labels ↔
      ∃ written, SelectorPhrase (scan raw.toList) (written.map term) ∧ ofList written = labels := by
  rw [parse_eq_ok]
  constructor
  · rintro ⟨sorted,parsed,rfl⟩
    obtain ⟨rs,read,same⟩ := Selector.parse_eq_ok.mp parsed
    have stable := Order.stablySorted_iff.mpr same
    have equalities : ∀ r ∈ rs, ∃ value, r.condition = .equals value := by
      intro r member
      exact exists_terms_iff.mp ⟨sorted,rfl⟩ r ((stable.mem_iff r).mpr member)
    obtain ⟨written,rfl⟩ := exists_terms_iff.mpr equalities
    refine ⟨written,requirementsOf_eq_ok.mp read,?_⟩
    exact (ofList_of_stablySorted ((Order.stablySorted_map_iff term_injective).mp stable)).symm
  · rintro ⟨written,phrase,rfl⟩
    have stable := Order.stablySorted_sortStable Prod.fst written
    refine ⟨Order.sortStable Prod.fst written,?_,ofList_of_stablySorted stable⟩
    refine Selector.parse_eq_ok.mpr ⟨_,requirementsOf_eq_ok.mpr phrase,?_⟩
    exact Order.stablySorted_iff.mp ((Order.stablySorted_map_iff term_injective).mpr stable)

/-- A text is a label set exactly if it is a selector that has equalities only. Its keys are those
written in the text, each with the value that is written last; any other text is refused under its
own name. -/
theorem parse_last_written (raw : String) :
    ((∃ labels, parse raw = .ok labels) ↔
      (∃ s, Selector.parse raw = .ok s) ∧
        ∀ rs, SelectorPhrase (scan raw.toList) rs → ∀ r ∈ rs, ∃ value, r.condition = .equals value) ∧
    (∀ labels, parse raw = .ok labels ↔
      ∃ written, SelectorPhrase (scan raw.toList) (written.map term) ∧
        (∀ key, key ∈ labels.entries.map Prod.fst ↔ key ∈ written.map Prod.fst) ∧
        ∀ key, labels.get? key = (Order.last? Prod.fst written key).map Prod.snd) ∧
    ((∃ labels, parse raw = .ok labels) ∨
      ∃ flaw, parse raw = .error (.invalidSelector raw flaw)) := by
  refine ⟨?_,?_,?_⟩
  · constructor
    · rintro ⟨labels,found⟩
      obtain ⟨written,phrase,_⟩ := parse_eq_ok_iff.mp found
      have read := requirementsOf_eq_ok.mpr phrase
      refine ⟨⟨_,Selector.parse_eq_ok.mpr ⟨_,read,rfl⟩⟩,fun rs other => ?_⟩
      obtain rfl := Except.ok.inj (read.symm.trans (requirementsOf_eq_ok.mpr other))
      exact exists_terms_iff.mp ⟨written,rfl⟩
    · rintro ⟨⟨s,parsed⟩,equalities⟩
      obtain ⟨rs,read,_⟩ := Selector.parse_eq_ok.mp parsed
      have phrase := requirementsOf_eq_ok.mp read
      obtain ⟨written,rfl⟩ := exists_terms_iff.mpr (equalities rs phrase)
      exact ⟨_,parse_eq_ok_iff.mpr ⟨written,phrase,rfl⟩⟩
  · intro labels
    rw [parse_eq_ok_iff]
    constructor
    · rintro ⟨written,phrase,rfl⟩
      exact ⟨written,phrase,fun key => mem_keys_ofList_iff,get?_ofList written⟩
    · rintro ⟨written,phrase,_,values⟩
      refine ⟨written,phrase,eq_of_get? fun key => ?_⟩
      rw [get?_ofList,values]
  · cases found : read raw with
    | ok labels => exact .inl ⟨labels,by rw [parse,found]; rfl⟩
    | error flaw => exact .inr ⟨flaw,by rw [parse,found]; rfl⟩

example : (parse "b=1, a=2, b==3, a=").toOption.map text = some "a=,b=3" := by decide +kernel

/-- A label set that texts may have. -/
def IsAccepted (labels : LabelSet) : Prop :=
  ∀ label ∈ labels.entries, checkKey label.1 = .ok () ∧ checkValue label.2 = .ok ()

theorem isMeant_term_iff {label : String × String} :
    (term label).IsMeant ↔ checkKey label.1 = .ok () ∧ checkValue label.2 = .ok () := by
  have values : checkValue label.2 = .ok () ↔ IsValue label.2 := by
    rw [checkValue,IsValue]
    split <;> simp_all
  rw [values]
  constructor
  · rintro ⟨ts,phrase⟩
    cases phrase with
    | keyed _ accepted condition =>
      cases condition with
      | equals value => exact ⟨accepted,value.isValue⟩
      | doubleEquals value => exact ⟨accepted,value.isValue⟩
  · rintro ⟨accepted,value⟩
    exact ⟨_,.keyed label.1 accepted (.equals (valuePhrase_tokens value))⟩

theorem text_eq (labels : LabelSet) : labels.text = (Selector.ofLabels labels).text := by
  rw [text,Selector.text,Selector.ofLabels,List.map_map]
  rfl

theorem canonical_ofLabels {labels : LabelSet} (accepted : labels.IsAccepted) :
    (Selector.ofLabels labels).Canonical := by
  constructor
  · intro r member
    obtain ⟨label,inside,rfl⟩ := List.mem_map.mp member
    exact isMeant_term_iff.mpr (accepted label inside)
  · apply List.pairwise_map.mpr
    exact labels.increasing.imp Std.le_of_lt

theorem isAccepted_of_parse {raw : String} {labels : LabelSet} (parsed : parse raw = .ok labels) :
    labels.IsAccepted := by
  obtain ⟨written,phrase,rfl⟩ := parse_eq_ok_iff.mp parsed
  intro label member
  have there : label ∈ written := mem_of_mem_ofList member
  exact isMeant_term_iff.mp (phrase.isMeant _ (List.mem_map_of_mem there))

/-- The printed text of a label set is read as the set and as the selector that asks for the set's
labels; such a selector matches the sets that have them all. -/
theorem parse_printed_labels :
    (∀ labels : LabelSet, labels.IsAccepted → parse labels.text = .ok labels ∧
      Selector.parse labels.text = .ok (Selector.ofLabels labels)) ∧
    (∀ raw labels, parse raw = .ok labels → labels.IsAccepted) ∧
    (∀ a b : LabelSet, (Selector.ofLabels a).isMetBy b ↔
      ∀ key value, a.get? key = some value → b.get? key = some value) ∧
    ∀ a b : LabelSet,
      a = b ↔ (Selector.ofLabels a).isMetBy b ∧ (Selector.ofLabels b).isMetBy a := by
  refine ⟨fun labels accepted => ?_,fun _ _ => isAccepted_of_parse,
    fun _ _ => isMetBy_ofLabels_iff,fun _ _ => eq_iff_isMetBy_ofLabels⟩
  have parsed : Selector.parse labels.text = .ok (Selector.ofLabels labels) := by
    rw [text_eq]
    exact (canonical_ofLabels accepted).parse_printed
  exact ⟨parse_eq_ok.mpr ⟨labels.entries,parsed,ofList_entries labels⟩,parsed⟩

theorem parse_printed_labels_prefixed :
    (ofList [("a.io/x","1"),("a-b",""),("B","")]).IsAccepted ∧
    (ofList [("a.io/x","1"),("a-b",""),("B","")]).text = "B=,a-b=,a.io/x=1" ∧
    parse (ofList [("a.io/x","1"),("a-b",""),("B","")]).text =
      .ok (ofList [("a.io/x","1"),("a-b",""),("B","")]) ∧
    Selector.parse (ofList [("a.io/x","1"),("a-b",""),("B","")]).text =
      .ok ⟨[⟨"B",.equals ""⟩,⟨"a-b",.equals ""⟩,⟨"a.io/x",.equals "1"⟩]⟩ := by
  have accepted : (ofList [("a.io/x","1"),("a-b",""),("B","")]).IsAccepted := by
    unfold IsAccepted
    decide +kernel
  exact ⟨accepted,by decide +kernel,parse_printed_labels.1 _ accepted⟩

end ObjectMetrics.LabelSet
