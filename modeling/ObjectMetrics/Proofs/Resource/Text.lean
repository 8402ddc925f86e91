import Mathlib.Data.Set.Function
import ObjectMetrics.Proofs.Text.Split
import ObjectMetrics.Resource

/-! The text of a resource type. Among the types without a dot in their own name it names one only, and
every text is that of the type read from it, unless its only dot is its last character. -/
namespace ObjectMetrics.GroupResource

/-- Whether the resource has no dot in its own name; its group may have any. -/
def IsPlain (gr : GroupResource) : Prop := '.' ∉ gr.resource.toList

instance (gr : GroupResource) : Decidable gr.IsPlain := inferInstanceAs (Decidable (_ ∉ _))

def EndsInOnlyDot (raw : String) : Prop :=
  raw.toList.count '.' = 1 ∧ raw.toList.getLast? = some '.'

instance (raw : String) : Decidable (EndsInOnlyDot raw) := inferInstanceAs (Decidable (_ ∧ _))

variable {raw resource : String} {gr : GroupResource}

theorem ofText_of_no_dot (absent : '.' ∉ raw.toList) : ofText raw = ⟨"",raw⟩ := by
  rw [ofText,Text.cut?_eq_none_iff.mpr absent]

theorem ofText_append (absent : '.' ∉ resource.toList) (group : String) :
    ofText (resource ++ "." ++ group) = ⟨group,resource⟩ := by
  have cut : Text.cut? '.' (resource ++ "." ++ group) = some (resource,group) :=
    Text.cut?_eq_some_iff.mpr ⟨by simp,absent⟩
  rw [ofText,cut]

theorem ofText_append_dot (absent : '.' ∉ resource.toList) :
    ofText (resource ++ ".") = ⟨"",resource⟩ := by
  have read := ofText_append absent ""
  rwa [String.append_empty] at read

/-- A resource type is read from its text and, in the core group, from its text with a dot behind it. -/
theorem ofText_eq_iff :
    ofText raw = gr ↔ gr.IsPlain ∧ (raw = gr.text ∨ gr.group = "" ∧ raw = gr.text ++ ".") := by
  constructor
  · rintro rfl
    cases cut : Text.cut? '.' raw with
    | none =>
      have absent := Text.cut?_eq_none_iff.mp cut
      rw [ofText_of_no_dot absent]
      exact ⟨absent,.inl rfl⟩
    | some parts =>
      obtain ⟨resource,group⟩ := parts
      obtain ⟨joined,absent⟩ := Text.cut?_eq_some_iff.mp cut
      obtain rfl : raw = resource ++ "." ++ group := String.toList_injective (by simpa using joined)
      rw [ofText_append absent]
      refine ⟨absent,?_⟩
      -- an empty group does not tell whether its dot was written, and the text leaves the dot out
      by_cases core : group = ""
      · subst core
        exact .inr ⟨rfl,String.append_empty⟩
      · exact .inl (if_neg core).symm
  · obtain ⟨group,resource⟩ := gr
    rintro ⟨plain,rfl | ⟨core,rfl⟩⟩
    · by_cases core : group = ""
      · subst core
        exact ofText_of_no_dot plain
      · rw [text,if_neg core]
        exact ofText_append plain group
    · obtain rfl : group = "" := core
      exact ofText_append_dot plain

theorem isPlain_ofText (raw : String) : (ofText raw).IsPlain := (ofText_eq_iff.mp rfl).1

theorem ofText_text_iff : ofText gr.text = gr ↔ gr.IsPlain := by
  rw [ofText_eq_iff]
  exact ⟨And.left,fun plain => ⟨plain,.inl rfl⟩⟩

theorem endsInOnlyDot_iff :
    EndsInOnlyDot raw ↔ ∃ front, '.' ∉ front.toList ∧ raw = front ++ "." := by
  constructor
  · rintro ⟨once,last⟩
    obtain ⟨front,joined⟩ := List.getLast?_eq_some_iff.mp last
    refine ⟨String.ofList front,?_,String.toList_injective (by simpa using joined)⟩
    rw [joined,List.count_append] at once
    rw [String.toList_ofList,← List.count_eq_zero]
    simpa using once
  · rintro ⟨front,absent,rfl⟩
    simp [EndsInOnlyDot,List.count_eq_zero.mpr absent]

theorem text_ofText_of_only_dot (ends : EndsInOnlyDot raw) :
    (ofText raw).text ++ "." = raw := by
  obtain ⟨front,absent,rfl⟩ := endsInOnlyDot_iff.mp ends
  rw [ofText_append_dot absent]
  rfl

theorem text_ofText_iff : (ofText raw).text = raw ↔ ¬ EndsInOnlyDot raw := by
  constructor
  · intro same ends
    have longer := congrArg String.length (text_ofText_of_only_dot ends)
    rw [same,String.length_append] at longer
    exact absurd longer (Nat.succ_ne_self _)
  · intro other
    obtain ⟨plain,same | ⟨core,dotted⟩⟩ := ofText_eq_iff.mp (rfl : ofText raw = _)
    · exact same.symm
    · rw [text,if_pos core] at dotted
      exact absurd (endsInOnlyDot_iff.mpr ⟨_,plain,dotted⟩) other

/-- A resource type is read back from its text exactly if it has no dot in its own name, so no two such
types share a text. Whatever is read is such a type, and its text is the one it was read from, but
without a dot that was the only one there and the last character. -/
theorem text_reads_back :
    (∀ gr : GroupResource, ofText gr.text = gr ↔ gr.IsPlain) ∧
    Set.InjOn text {gr | gr.IsPlain} ∧
    (∀ raw, (ofText raw).IsPlain ∧ ofText (ofText raw).text = ofText raw) ∧
    ∀ raw, ((ofText raw).text = raw ↔ ¬ EndsInOnlyDot raw) ∧
      (EndsInOnlyDot raw → (ofText raw).text ++ "." = raw) := by
  have back : Set.LeftInvOn ofText text {gr | gr.IsPlain} := fun gr plain => ofText_text_iff.mpr plain
  refine ⟨fun gr => ofText_text_iff,back.injOn,fun raw => ?_,
    fun raw => ⟨text_ofText_iff,text_ofText_of_only_dot⟩⟩
  exact ⟨isPlain_ofText raw,back (isPlain_ofText raw)⟩

theorem text_reads_back_dots :
    IsPlain ⟨".apps.",""⟩ ∧ ofText "..apps." = ⟨".apps.",""⟩ ∧
    IsPlain ⟨"apps.",""⟩ ∧ text ⟨".apps.",""⟩ ≠ text ⟨"apps.",""⟩ ∧
    ¬ IsPlain ⟨"apps","jobs.batch"⟩ ∧ ofText (text ⟨"apps","jobs.batch"⟩) ≠ ⟨"apps","jobs.batch"⟩ ∧
    text ⟨"apps","jobs.batch"⟩ = text ⟨"batch.apps","jobs"⟩ ∧
    EndsInOnlyDot "pods." ∧ (ofText "pods.").text ++ "." = "pods." ∧
    ¬ EndsInOnlyDot "pods.." ∧ (ofText "pods..").text = "pods.." := by
  obtain ⟨back,apart,_,texts⟩ := text_reads_back
  have plain : IsPlain ⟨".apps.",""⟩ := by decide
  have other : IsPlain ⟨"apps.",""⟩ := by decide
  have compound : ¬ IsPlain ⟨"apps","jobs.batch"⟩ := by decide
  have single : EndsInOnlyDot "pods." := by decide
  have double : ¬ EndsInOnlyDot "pods.." := by decide
  exact ⟨plain,(back _).mpr plain,other,apart.ne plain other (by decide),compound,
    mt (back _).mp compound,by decide,single,(texts _).2 single,double,(texts _).1.mpr double⟩

end ObjectMetrics.GroupResource
