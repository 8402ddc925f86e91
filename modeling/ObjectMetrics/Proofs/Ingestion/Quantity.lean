import ObjectMetrics.Ingestion.Quantity
import ObjectMetrics.Proofs.Number.Literal
import ObjectMetrics.Proofs.Number.Rounding
import Mathlib.Data.List.Pairwise

/-! The language of quantities. A text is a decimal literal, or a plain decimal before one suffix of the
table, or no quantity at all. No suffix ends as a literal does and none ends another, so the order in
which they are tried is never seen. -/
namespace ObjectMetrics.Quantity
open Number

/-- A text that is a decimal literal, and its nearest binary64 value. -/
def IsLiteral (cs : List Char) (v : Float) : Prop := ∃ d, DecimalLiteral cs d ∧ d.rounded = v

/-- A text that is a plain decimal before a suffix, and the value that its factor scales. -/
def IsScaled (suffix : List Char × Float) (cs : List Char) (v : Float) : Prop :=
  ∃ stem d, cs = stem ++ suffix.1 ∧ PlainDecimal stem d ∧ d.rounded * suffix.2 = v

def trimmed (raw : String) : List Char := Text.stripBoth Text.isBlank raw.toList

def readBy? (table : List (List Char × Float)) (raw : String) : Option Float :=
  match Decimal.read? (trimmed raw) with
  | some d => finite? d.toFloat
  | none => table.findSome? (scaled? (trimmed raw))

theorem read?_eq_readBy? (raw : String) : read? raw = readBy? suffixes raw := rfl

variable {cs stem : List Char} {s : List Char × Float} {v : Float} {d : Decimal}

/-! Each reader by what it accepts. -/

theorem finite?_eq_some_iff {x : Float} : finite? x = some v ↔ x = v ∧ v.isFinite := by
  rw [finite?,Option.ite_none_right_eq_some,Option.some.injEq,and_comm]
  exact and_congr_right fun same => same ▸ Iff.rfl

theorem stem?_eq_some_iff {ending : List Char} :
    stem? ending cs = some stem ↔ cs = stem ++ ending := by
  rw [stem?,Option.ite_none_right_eq_some,List.isSuffixOf_iff_suffix,Option.some.injEq]
  constructor
  · rintro ⟨⟨front,rfl⟩,rfl⟩
    rw [List.length_append,Nat.add_sub_cancel,List.take_left]
  · rintro rfl
    rw [List.length_append,Nat.add_sub_cancel,List.take_left]
    exact ⟨List.suffix_append stem ending,rfl⟩

theorem readPlain?_eq_some_iff : readPlain? cs = some d ↔ PlainDecimal cs d := by
  rw [readPlain?,Option.ite_none_left_eq_some,Decimal.read?_eq_some_iff]
  constructor
  · rintro ⟨unmarked,plain | ⟨_,isMark,_⟩⟩
    · assumption
    · refine absurd (List.any_eq_true.mpr ⟨_,List.mem_append_cons_self,?_⟩) unmarked
      simpa [isExponentMark] using isMark
  · intro decimal
    refine ⟨?_,.plain decimal⟩
    rw [List.any_eq_true]
    rintro ⟨c,member,isMark⟩
    have char := decimal.chars c member
    have mark : c = 'e' ∨ c = 'E' := by simpa [isExponentMark] using isMark
    rcases mark with rfl | rfl <;> simp at char

theorem scaled?_eq_some_iff : scaled? cs s = some v ↔ IsScaled s cs v ∧ v.isFinite := by
  simp only [scaled?,bind,Option.bind_eq_some_iff,stem?_eq_some_iff,readPlain?_eq_some_iff,
    finite?_eq_some_iff,Decimal.toFloat_eq_rounded]
  constructor
  · rintro ⟨stem,parts,d,decimal,value,finite⟩
    exact ⟨⟨stem,d,parts,decimal,value⟩,finite⟩
  · rintro ⟨⟨stem,d,parts,decimal,value⟩,finite⟩
    exact ⟨stem,parts,d,decimal,value,finite⟩

/-! Which suffixes a text can end in. -/

def Apart (s r : List Char × Float) : Prop := ¬ s.1 <:+ r.1 ∧ ¬ r.1 <:+ s.1

instance (s r : List Char × Float) : Decidable (Apart s r) := inferInstanceAs (Decidable (_ ∧ _))

instance : Std.Symm Apart := ⟨fun _ _ => And.symm⟩

theorem suffixes_apart : suffixes.Pairwise Apart := by decide

theorem suffixes_not_literal :
    ∀ s ∈ suffixes, s.1.getLast?.any fun c => !c.isDigit && c != '.' := by decide

theorem suffix_unique {r : List Char × Float} (first : s ∈ suffixes) (second : r ∈ suffixes)
    (ends : s.1 <:+ cs) (ends' : r.1 <:+ cs) : s = r := by
  by_contra differ
  have apart : Apart s r := suffixes_apart.forall first second differ
  -- Of two ends of one text the shorter ends the longer.
  rcases List.suffix_or_suffix_of_suffix ends ends' with nested | nested
  · exact apart.1 nested
  · exact apart.2 nested

theorem IsScaled.ends (scaled : IsScaled s cs v) : s.1 <:+ cs := by
  obtain ⟨stem,_,rfl,_⟩ := scaled
  exact List.suffix_append stem s.1

theorem not_literal_of_suffix (member : s ∈ suffixes) (ends : s.1 <:+ cs) :
    ¬ DecimalLiteral cs d := by
  intro literal
  obtain ⟨stem,rfl⟩ := ends
  obtain ⟨c,last,other⟩ := (Option.any_eq_true ..).mp (suffixes_not_literal s member)
  have kept : (stem ++ s.1).getLast? = some c := by rw [List.getLast?_append,last,Option.some_or]
  rcases literal.getLast? c kept with digit | rfl
  · simp [digit] at other
  · simp at other

/-- A search finds what any one place gives when no two places give anything. -/
theorem findSome?_eq_some_iff_of_unique {α β : Type} {f : α → Option β} {xs : List α} {b : β}
    (unique : ∀ x ∈ xs, ∀ y ∈ xs, (f x).isSome → (f y).isSome → x = y) :
    xs.findSome? f = some b ↔ ∃ x ∈ xs, f x = some b := by
  constructor
  · exact List.exists_of_findSome?_eq_some
  · rintro ⟨x,member,found⟩
    have given : (f x).isSome := Option.isSome_of_mem found
    obtain ⟨b',search⟩ := Option.isSome_iff_exists.mp
      (List.findSome?_isSome_iff.mpr ⟨x,member,given⟩)
    obtain ⟨y,member',found'⟩ := List.exists_of_findSome?_eq_some search
    obtain rfl := unique x member y member' given (Option.isSome_of_mem found')
    rw [search,← found',found]

theorem findSome?_scaled? {table : List (List Char × Float)} (same : table.Perm suffixes) :
    table.findSome? (scaled? cs) = some v ↔ v.isFinite ∧ ∃ s ∈ suffixes, IsScaled s cs v := by
  have ends {s : List Char × Float} (found : (scaled? cs s).isSome) : s.1 <:+ cs := by
    obtain ⟨w,value⟩ := Option.isSome_iff_exists.mp found
    exact (scaled?_eq_some_iff.mp value).1.ends
  rw [findSome?_eq_some_iff_of_unique]
  · simp only [scaled?_eq_some_iff,same.mem_iff]
    constructor
    · rintro ⟨s,member,scaled,finite⟩
      exact ⟨finite,s,member,scaled⟩
    · rintro ⟨finite,s,member,scaled⟩
      exact ⟨s,member,scaled,finite⟩
  · intro s first r second found found'
    exact suffix_unique (same.mem_iff.mp first) (same.mem_iff.mp second) (ends found) (ends found')

theorem readBy?_eq_some_iff {table : List (List Char × Float)} (same : table.Perm suffixes)
    (raw : String) : readBy? table raw = some v ↔
      v.isFinite ∧ (IsLiteral (trimmed raw) v ∨ ∃ s ∈ suffixes, IsScaled s (trimmed raw) v) := by
  unfold readBy?
  generalize trimmed raw = cs
  cases read : Decimal.read? cs with
  | some d =>
    have literal := Decimal.read?_eq_some_iff.mp read
    -- Reading literals first takes no text from the suffixes.
    have unscaled : ¬ ∃ s ∈ suffixes, IsScaled s cs v := by
      rintro ⟨s,member,scaled⟩
      exact not_literal_of_suffix member scaled.ends literal
    have value : IsLiteral cs v ↔ d.rounded = v := by
      simp [IsLiteral,← Decimal.read?_eq_some_iff,read]
    rw [finite?_eq_some_iff,Decimal.toFloat_eq_rounded,value,or_iff_left unscaled,and_comm]
  | none =>
    have unread : ¬ IsLiteral cs v := by
      rintro ⟨d,literal,_⟩
      rw [Decimal.read?_eq_some_iff.mpr literal] at read
      contradiction
    rw [findSome?_scaled? same,or_iff_right unread]

/-- Quantities are the finite values of literals and of scaled decimals. No text is both, and none is
scaled by two suffixes, so that the suffixes can be tried in any order. -/
theorem read?_language (raw : String) :
    suffixes = [("Ki".toList,1024),("Mi".toList,1048576),("Gi".toList,1073741824),
      ("Ti".toList,1099511627776),("Pi".toList,1125899906842624),
      ("Ei".toList,1152921504606846976),("n".toList,1e-9),("u".toList,1e-6),("m".toList,1e-3),
      ("k".toList,1e3),("M".toList,1e6),("G".toList,1e9),("T".toList,1e12),("P".toList,1e15),
      ("E".toList,1e18)] ∧
    (∀ v, read? raw = some v ↔
      v.isFinite ∧ (IsLiteral (trimmed raw) v ∨ ∃ s ∈ suffixes, IsScaled s (trimmed raw) v)) ∧
    (∀ s ∈ suffixes, ∀ v w, ¬ (IsLiteral (trimmed raw) v ∧ IsScaled s (trimmed raw) w)) ∧
    (∀ s ∈ suffixes, ∀ r ∈ suffixes, s.1 <:+ trimmed raw → r.1 <:+ trimmed raw → s = r) ∧
    ∀ table, table.Perm suffixes → readBy? table raw = read? raw := by
  refine ⟨rfl,?_,?_,?_,?_⟩
  · intro v
    rw [read?_eq_readBy?]
    exact readBy?_eq_some_iff (.refl suffixes) raw
  · rintro s member v w ⟨⟨d,literal,_⟩,scaled⟩
    exact not_literal_of_suffix member scaled.ends literal
  · exact fun s first r second => suffix_unique first second
  · intro table same
    apply Option.ext
    intro v
    rw [read?_eq_readBy?,readBy?_eq_some_iff same,readBy?_eq_some_iff (.refl suffixes)]

theorem read?_language_marks :
    IsScaled ("E".toList,1e18) (trimmed "1E") 1e18 ∧ read? "1E" = some 1e18 ∧
    IsLiteral (trimmed "1E2") 100 ∧ read? "1E2" = some 100 ∧
    (∀ v, ¬ IsScaled ("E".toList,1e18) (trimmed "1E2") v) ∧ read? "1e3E" = none ∧
    readBy? suffixes.reverse "\u3000-.5Ki" = some (-512) := by
  have scaled : IsScaled ("E".toList,1e18) (trimmed "1E") 1e18 :=
    ⟨['1'],⟨false,1,0⟩,by decide +kernel,readPlain?_eq_some_iff.mp (by decide +kernel),
      by decide +kernel⟩
  have literal : IsLiteral (trimmed "1E2") 100 :=
    ⟨⟨false,1,2⟩,Decimal.read?_eq_some_iff.mp (by decide +kernel),by decide +kernel⟩
  have listed : ("E".toList,1e18) ∈ suffixes := by simp [suffixes]
  obtain ⟨_,accepts,_⟩ := read?_language "1E"
  obtain ⟨_,accepts',apart,_⟩ := read?_language "1E2"
  obtain ⟨_,_,_,_,reordered⟩ := read?_language "\u3000-.5Ki"
  refine ⟨scaled,(accepts _).mpr ⟨by decide +kernel,.inr ⟨_,listed,scaled⟩⟩,literal,
    (accepts' _).mpr ⟨by decide +kernel,.inl literal⟩,fun v other => ?_,by decide +kernel,?_⟩
  · exact apart _ listed _ v ⟨literal,other⟩
  · exact (reordered _ (List.reverse_perm suffixes)).trans (by decide +kernel)

end ObjectMetrics.Quantity
