import ObjectMetrics.Ingestion.Target
import ObjectMetrics.Proofs.Text.Split
import ObjectMetrics.Proofs.Text.Strip

/-! Paths that are joined from segments. Cutting such a path gives its segments back, so its target is
the one that the segments spell. -/
namespace ObjectMetrics

namespace Text

variable {joint : List Char} {pieces : List (List Char)}

theorem mem_of_head?_intercalate (proper : ∀ piece ∈ pieces, piece ≠ []) {c : Char}
    (shown : c ∈ (joint.intercalate pieces).head?) : ∃ piece ∈ pieces, c ∈ piece := by
  cases pieces with
  | nil => simp at shown
  | cons first pieces =>
    obtain ⟨rest,joined⟩ : ∃ rest, joint.intercalate (first :: pieces) = first ++ rest := by
      cases pieces with
      | nil => exact ⟨[],by simp [List.intercalate_singleton]⟩
      | cons second pieces => exact ⟨_,by rw [List.intercalate_cons_cons,List.append_assoc]⟩
    have started : first.head?.isSome := by simpa using proper first List.mem_cons_self
    rw [joined,List.head?_append,Option.or_of_isSome started] at shown
    exact ⟨first,List.mem_cons_self,List.mem_of_head? shown⟩

theorem mem_of_getLast?_intercalate (proper : ∀ piece ∈ pieces, piece ≠ []) {c : Char}
    (shown : c ∈ (joint.intercalate pieces).getLast?) : ∃ piece ∈ pieces, c ∈ piece := by
  induction pieces with
  | nil => simp at shown
  | cons first pieces ih =>
    cases pieces with
    | nil =>
      rw [List.intercalate_singleton] at shown
      exact ⟨first,List.mem_cons_self,List.mem_of_getLast? shown⟩
    | cons second pieces =>
      have later := (List.forall_mem_cons.mp proper).2
      have ended : (joint.intercalate (second :: pieces)).getLast?.isSome := by
        have filled := later second List.mem_cons_self
        cases pieces <;> simp [List.intercalate_singleton,List.intercalate_cons_cons,filled]
      rw [List.intercalate_cons_cons,List.getLast?_append,Option.or_of_isSome ended] at shown
      obtain ⟨piece,member,inside⟩ := ih later shown
      exact ⟨piece,List.mem_cons_of_mem _ member,inside⟩

end Text

namespace WriteTarget

def IsSegment (s : String) : Prop := s ≠ "" ∧ '/' ∉ s.toList

instance (s : String) : Decidable (IsSegment s) := inferInstanceAs (Decidable (_ ∧ _))

def slashes (count : Nat) : String := String.ofList (List.replicate count '/')

@[simp] theorem toList_slashes (count : Nat) : (slashes count).toList = List.replicate count '/' :=
  String.toList_ofList

theorem segments_padded {parts : List String} (nonempty : parts ≠ [])
    (proper : ∀ part ∈ parts, IsSegment part) (lead trail : Nat) :
    segments (slashes lead ++ "/".intercalate parts ++ slashes trail) = parts := by
  have free : ∀ piece ∈ parts.map String.toList, '/' ∉ piece := by
    rw [List.forall_mem_map]
    exact fun part member => (proper part member).2
  have filled : ∀ piece ∈ parts.map String.toList, piece ≠ [] := by
    rw [List.forall_mem_map]
    exact fun part member => by simpa using (proper part member).1
  -- no slash stands at either end of what is joined, where slashes do not count
  have inner {c : Char} (shown : ∃ piece ∈ parts.map String.toList, c ∈ piece) :
      ¬ decide (c = '/') := by
    rintro slash
    obtain rfl := of_decide_eq_true slash
    obtain ⟨piece,member,inside⟩ := shown
    exact free piece member inside
  have around (count : Nat) : ∀ c ∈ List.replicate count '/', decide (c = '/') := by
    intro c member
    exact decide_eq_true (List.eq_of_mem_replicate member)
  have stripped : Text.stripBoth (· = '/') (List.replicate lead '/' ++
      ['/'].intercalate (parts.map String.toList) ++ List.replicate trail '/') =
      ['/'].intercalate (parts.map String.toList) :=
    Text.stripBoth_padded (around lead) (around trail)
      (fun c shown => inner (Text.mem_of_head?_intercalate filled shown))
      fun c shown => inner (Text.mem_of_getLast?_intercalate filled shown)
  have spelled : (slashes lead ++ "/".intercalate parts ++ slashes trail).toList =
      List.replicate lead '/' ++ ['/'].intercalate (parts.map String.toList) ++
        List.replicate trail '/' := by
    rw [String.toList_append,String.toList_append,String.toList_intercalate,toList_slashes,
      toList_slashes]
    rfl
  rw [segments,spelled,stripped,Text.splitAll_intercalate (by simpa using nonempty) free,
    List.map_map]
  simp [Function.comp_def]

theorem ofPath?_padded {parts : List String} (nonempty : parts ≠ [])
    (proper : ∀ part ∈ parts, IsSegment part) (lead trail : Nat) :
    ofPath? (slashes lead ++ "/".intercalate parts ++ slashes trail) = ofSegments? parts := by
  have filled : parts.contains "" = false := by
    simp only [List.contains_eq_mem,decide_eq_false_iff_not]
    exact fun empty => (proper "" empty).1 rfl
  rw [ofPath?,segments_padded nonempty proper,filled]
  rfl

theorem ofPath?_intercalate {parts : List String} (nonempty : parts ≠ [])
    (proper : ∀ part ∈ parts, IsSegment part) :
    ofPath? ("/".intercalate parts) = ofSegments? parts := by
  simpa [slashes] using ofPath?_padded nonempty proper 0 0

/-- The path `RESOURCE/NAME/METRIC`, below `namespaces/NS` if there is a namespace. -/
def path (ns? : Option String) (resource name metric : String) : String :=
  "/".intercalate ((ns?.elim [] fun ns => ["namespaces",ns]) ++ [resource,name,metric])

variable {ns? : Option String} {resource name metric : String}

theorem ofPath?_path (proper : ∀ part ∈ ns?.toList ++ [resource,name,metric], IsSegment part) :
    ofPath? (path ns? resource name metric) = some ⟨resource,ns?.getD "",name,metric⟩ := by
  have root : IsSegment "namespaces" := by decide
  cases ns? with
  | none =>
    have cut : ofPath? (path none resource name metric) = ofSegments? [resource,name,metric] :=
      ofPath?_intercalate (by simp) proper
    simp [cut,ofSegments?]
  | some ns => exact ofPath?_intercalate (by simp) (List.forall_mem_cons.mpr ⟨root,proper⟩)

/-- With a namespace it does not matter how the resource is spelled, and without one it matters only
whether it is spelled `namespaces`. -/
theorem isNamespaced_getD (proper : ∀ ns ∈ ns?, IsSegment ns) :
    isNamespaced ⟨resource,ns?.getD "",name,metric⟩ = (ns?.isSome || resource = "namespaces") := by
  cases ns? with
  | none => simp [isNamespaced]
  | some ns => simp [isNamespaced,(proper ns rfl).1]

end WriteTarget

end ObjectMetrics
