import ObjectMetrics.Proofs.Selector.Names
import ObjectMetrics.Proofs.Selector.Reading

/-! Requirements that compare integers. The bound is a row of digits that fits in 64 bits, the label may
be any text, and the two are compared as the integers that they denote. -/

namespace ObjectMetrics.Label

theorem checkName_of_digits {w : String} (digits : Number.allDigits w.toList)
    (short : w.utf8ByteSize ≤ maxNameLength) : checkName w = .ok () := by
  simp only [Number.allDigits,Bool.and_eq_true,Bool.not_eq_true',List.isEmpty_eq_false_iff,
    List.all_eq_true] at digits
  obtain ⟨nonempty,each⟩ := digits
  have letters : ∀ c ∈ w.toList, c.isAlphanum := by
    intro c member
    simp [Char.isAlphanum,each c member]
  have spelled : isNameText w.toList := by
    simp only [isNameText,Bool.and_eq_true,List.all_eq_true,Option.any_eq_true]
    refine ⟨⟨⟨_,List.head?_eq_some_head nonempty,letters _ (List.head_mem nonempty)⟩,
      ⟨_,List.getLast?_eq_some_getLast nonempty,letters _ (List.getLast_mem nonempty)⟩⟩,?_⟩
    intro c member
    simp [isNameChar,letters c member]
  have sized : ¬ (w = "" ∨ maxNameLength < w.utf8ByteSize) := by
    rintro (rfl | long)
    · exact nonempty rfl
    · omega
  rw [checkName,if_neg (by simpa using sized),if_pos spelled]

theorem compareIntegers_iff {rel : Int → Int → Bool} {label bound : String} :
    Condition.compareIntegers rel label bound ↔ ∃ n m, Number.readInt64? label = some n ∧
      Number.readInt64? bound = some m ∧ rel n m := by
  unfold Condition.compareIntegers
  cases Number.readInt64? label <;> cases Number.readInt64? bound <;> simp

theorem isAlphanum_of_checkName {w : String} {c : Char} {cs : List Char}
    (accepted : checkName w = .ok ()) (letters : w.toList = c :: cs) : c.isAlphanum := by
  unfold checkName at accepted
  split at accepted
  · simp at accepted
  · split at accepted
    · rename_i spelled
      rw [letters] at spelled
      exact (Bool.and_eq_true_iff.mp (Bool.and_eq_true_iff.mp spelled).1).1
    · simp at accepted

theorem IsBound.natural {w : String} (bound : IsBound w) :
    ∃ n : Nat, Number.Numeral w.toList n ∧ n ≤ 9223372036854775807 ∧
      Number.readInt64? w = some (n : Int) := by
  obtain ⟨accepted,value,signed,small⟩ := bound
  have read := Number.readInt64?_eq_some_iff.mpr ⟨signed,small⟩
  generalize letters : w.toList = cs at signed
  cases signed with
  | @plain cs n numeral =>
    refine ⟨n,numeral,?_,read⟩
    have above := small.2
    omega
  | plus numeral => exact absurd (isAlphanum_of_checkName accepted letters) (by decide)
  | minus numeral => exact absurd (isAlphanum_of_checkName accepted letters) (by decide)

theorem isBound_of_numeral {w : String} {n : Nat} (numeral : Number.Numeral w.toList n)
    (small : n ≤ 9223372036854775807) (short : w.utf8ByteSize ≤ maxNameLength) : IsBound w := by
  have digits := (Number.numeral_iff.mp numeral).1
  refine ⟨checkName_of_digits digits short,n,.plain numeral,?_⟩
  constructor
  · omega
  · omega

/-- The signs that compare a label with a bound. -/
inductive Comparison where
  | greater
  | less

namespace Comparison

def text : Comparison → String
  | greater => ">"
  | less => "<"

def token : Comparison → Token
  | greater => .greater
  | less => .less

def condition : Comparison → String → Condition
  | greater => .greaterThan
  | less => .lessThan

theorem conditionPhrase_iff (sign : Comparison) {ts : List Token} {c : Condition} :
    ConditionPhrase (sign.token :: ts) c ↔
      ∃ w, ts = [.word w] ∧ IsBound w ∧ c = sign.condition w := by
  cases sign with
  | greater =>
    constructor
    · rintro (_ | _ | _ | _ | ⟨w,bound⟩)
      exact ⟨w,rfl,bound,rfl⟩
    · rintro ⟨w,rfl,bound,rfl⟩
      exact .greater w bound
  | less =>
    constructor
    · rintro (_ | _ | _ | _ | _ | ⟨w,bound⟩)
      exact ⟨w,rfl,bound,rfl⟩
    · rintro ⟨w,rfl,bound,rfl⟩
      exact .less w bound

theorem scan_eq (sign : Comparison) {key : String} (word : IsWord key) (s : String) :
    scan (key ++ sign.text ++ s).toList = .word key :: sign.token :: scan s.toList := by
  have rest : Spelling (sign.token :: scan s.toList) (sign.text.toList ++ s.toList) := by
    cases sign with
    | greater => exact .token .greater trivial (fun _ _ => rfl) (spelling_scan _)
    | less => exact .token .less trivial (fun _ _ => rfl) (spelling_scan _)
  have ends : ∀ c ∈ (sign.text.toList ++ s.toList).head?, isWordChar c = false := by
    intro c member
    cases sign with
    | greater =>
      obtain rfl := Option.some.inj member
      decide
    | less =>
      obtain rfl := Option.some.inj member
      decide
  rw [String.toList_append,String.toList_append,List.append_assoc]
  exact scan_eq_of_spelling (.token (.word key) word ends rest)

end Comparison

end ObjectMetrics.Label

namespace ObjectMetrics

def LabelSet.HasInteger (labels : LabelSet) (key : String) (v : Int) : Prop :=
  ∃ value, labels.get? key = some value ∧ Number.SignedNumeral value.toList v ∧ Number.IsInt64 v

theorem LabelSet.hasInteger_iff {labels : LabelSet} {key value : String} {n : Int}
    (found : labels.get? key = some value) (signed : Number.SignedNumeral value.toList n) (v : Int) :
    labels.HasInteger key v ↔ v = n ∧ Number.IsInt64 n := by
  constructor
  · rintro ⟨other,there,denoted,small⟩
    obtain rfl := Option.some.inj (there.symm.trans found)
    obtain rfl := Number.signedNumeral_unique denoted signed
    exact ⟨rfl,small⟩
  · rintro ⟨rfl,small⟩
    exact ⟨value,found,signed,small⟩

namespace Selector
open Label

theorem parse_single_iff {raw : String} {r : Requirement} :
    parse raw = .ok ⟨[r]⟩ ↔ RequirementPhrase (scan raw.toList) r := by
  rw [parse_eq_ok]
  constructor
  · rintro ⟨rs,read,sorted⟩
    have perm := Order.perm_sortStable Requirement.key rs
    rw [← sorted,List.singleton_perm] at perm
    rw [requirementsOf_eq_ok,← perm] at read
    generalize scan raw.toList = ts at read
    cases read with
    | terms requirements =>
      cases requirements with
      | one first => exact first
      | more _ rest => cases rest
  · intro phrase
    exact ⟨[r],requirementsOf_eq_ok.mpr (.terms (.one phrase)),rfl⟩

theorem parse_comparison_iff (sign : Comparison) {key n : String} {r : Requirement}
    (accepted : checkKey key = .ok ()) :
    parse (key ++ sign.text ++ n) = .ok ⟨[r]⟩ ↔
      ∃ w, scan n.toList = [.word w] ∧ IsBound w ∧ r = ⟨key,sign.condition w⟩ := by
  rw [parse_single_iff,sign.scan_eq (isWord_of_checkKey accepted)]
  constructor
  · intro phrase
    cases phrase with
    | keyed _ _ condition =>
      obtain ⟨w,read,bound,rfl⟩ := sign.conditionPhrase_iff.mp condition
      exact ⟨w,read,bound,rfl⟩
  · rintro ⟨w,read,bound,rfl⟩
    exact .keyed key accepted (sign.conditionPhrase_iff.mpr ⟨w,read,bound,rfl⟩)

theorem parse_comparison (sign : Comparison) {key w : String} (accepted : checkKey key = .ok ())
    (bound : IsBound w) : parse (key ++ sign.text ++ w) = .ok ⟨[⟨key,sign.condition w⟩]⟩ :=
  (parse_comparison_iff sign accepted).mpr
    ⟨w,scan_of_isWord (isWord_of_checkName bound.1),bound,rfl⟩

/-- Two selectors that compare the integer under a key with a bound, from above and from below. -/
structure ComparesIntegers (key : String) (bound : Int) (more less : Selector) : Prop where
  more_iff : ∀ labels, more.isMetBy labels ↔ ∃ v, labels.HasInteger key v ∧ bound < v
  less_iff : ∀ labels, less.isMetBy labels ↔ ∃ v, labels.HasInteger key v ∧ v < bound
  apart : ∀ labels, ¬ (more.isMetBy labels ∧ less.isMetBy labels)
  unmet : ∀ labels, (∀ v, ¬ labels.HasInteger key v) →
    more.isMetBy labels = false ∧ less.isMetBy labels = false
  zeros : ∀ (labels padded : LabelSet) (sign digits : List Char) (count : Nat),
    sign ∈ [[],['+'],['-']] → Number.allDigits digits →
    labels.get? key = some (String.ofList (sign ++ digits)) →
    padded.get? key = some (String.ofList (sign ++ (List.replicate count '0' ++ digits))) →
    more.isMetBy labels = more.isMetBy padded ∧ less.isMetBy labels = less.isMetBy padded

section Comparing

variable {key : String} {bound : Int}

theorem any_compareIntegers_iff (key : String) {w : String} (denoted : Number.readInt64? w = some bound)
    (rel : Int → Int → Bool) (labels : LabelSet) :
    (labels.get? key).any (fun value => Condition.compareIntegers rel value w) ↔
      ∃ v, labels.HasInteger key v ∧ rel v bound := by
  simp only [Option.any_eq_true,compareIntegers_iff,denoted,LabelSet.HasInteger,
    ← Number.readInt64?_eq_some_iff]
  constructor
  · rintro ⟨value,found,v,_,read,same,holds⟩
    obtain rfl := Option.some.inj same
    exact ⟨v,⟨value,found,read⟩,holds⟩
  · rintro ⟨v,⟨value,found,read⟩,holds⟩
    exact ⟨value,found,v,bound,read,rfl,holds⟩

theorem hasInteger_padded {labels padded : LabelSet} {sign digits : List Char} {count : Nat}
    (signs : sign ∈ [[],['+'],['-']]) (plain : Number.allDigits digits)
    (found : labels.get? key = some (String.ofList (sign ++ digits)))
    (other : padded.get? key = some (String.ofList (sign ++ (List.replicate count '0' ++ digits))))
    (v : Int) : labels.HasInteger key v ↔ padded.HasInteger key v := by
  have numeral := Number.numeral_iff.mpr ⟨plain,rfl⟩
  have wide := Number.numeral_zeros numeral count
  obtain ⟨n,signed,long⟩ : ∃ n, Number.SignedNumeral (sign ++ digits) n ∧
      Number.SignedNumeral (sign ++ (List.replicate count '0' ++ digits)) n := by
    simp only [List.mem_cons,List.not_mem_nil,or_false] at signs
    rcases signs with rfl | rfl | rfl
    · exact ⟨_,.plain numeral,.plain wide⟩
    · exact ⟨_,.plus numeral,.plus wide⟩
    · exact ⟨_,.minus numeral,.minus wide⟩
  rw [LabelSet.hasInteger_iff found (by simpa using signed),
    LabelSet.hasInteger_iff other (by simpa using long)]

theorem comparesIntegers_of_iff {more less : Selector}
    (above : ∀ labels, more.isMetBy labels ↔ ∃ v, labels.HasInteger key v ∧ bound < v)
    (below : ∀ labels, less.isMetBy labels ↔ ∃ v, labels.HasInteger key v ∧ v < bound) :
    ComparesIntegers key bound more less where
  more_iff := above
  less_iff := below
  apart := by
    rintro labels ⟨met,other⟩
    obtain ⟨v,⟨value,found,signed,_⟩,larger⟩ := (above labels).mp met
    obtain ⟨u,integer,smaller⟩ := (below labels).mp other
    obtain ⟨rfl,_⟩ := (LabelSet.hasInteger_iff found signed u).mp integer
    omega
  unmet := by
    intro labels none
    constructor
    · rw [Bool.eq_false_iff,ne_eq,above]
      rintro ⟨v,integer,_⟩
      exact none v integer
    · rw [Bool.eq_false_iff,ne_eq,below]
      rintro ⟨v,integer,_⟩
      exact none v integer
  zeros := by
    intro labels padded sign digits count signs plain found other
    have same := hasInteger_padded signs plain found other
    constructor
    · rw [Bool.eq_iff_iff,above,above]
      simp only [same]
    · rw [Bool.eq_iff_iff,below,below]
      simp only [same]

theorem comparesIntegers_of_bound {w : String} (denoted : Number.readInt64? w = some bound) :
    ComparesIntegers key bound ⟨[⟨key,.greaterThan w⟩]⟩ ⟨[⟨key,.lessThan w⟩]⟩ := by
  apply comparesIntegers_of_iff
  · intro labels
    have compared := any_compareIntegers_iff key denoted (fun n m => m < n) labels
    simpa [isMetBy,Requirement.isMetBy,Condition.holds] using compared
  · intro labels
    have compared := any_compareIntegers_iff key denoted (fun n m => n < m) labels
    simpa [isMetBy,Requirement.isMetBy,Condition.holds] using compared

end Comparing

/-- A requirement on the integer under a key. Its bound is a row of digits that fits in 64 bits, so it
may stand after either sign; the label's value is compared with it as an integer of 64 bits and meets
neither requirement if it is none. Zeros in front count neither in the label nor in the bound. -/
theorem parse_compares_integers {key n : String} {r : Requirement}
    (accepted : checkKey key = .ok ()) (read : parse (key ++ ">" ++ n) = .ok ⟨[r]⟩) :
    r = ⟨key,.greaterThan (Text.trim n)⟩ ∧
    ∃ less, parse (key ++ "<" ++ n) = .ok less ∧
      ∃ bound : Nat, Number.Numeral (Text.trim n).toList bound ∧ bound ≤ 9223372036854775807 ∧
        ComparesIntegers key bound ⟨[r]⟩ less ∧
        ∀ count padded, padded = String.ofList (List.replicate count '0') ++ Text.trim n →
          padded.utf8ByteSize ≤ maxNameLength →
          ∃ more less, parse (key ++ ">" ++ padded) = .ok more ∧
            parse (key ++ "<" ++ padded) = .ok less ∧ ComparesIntegers key bound more less := by
  obtain ⟨w,scanned,valid,rfl⟩ := (parse_comparison_iff .greater accepted).mp read
  obtain ⟨bound,numeral,small,denoted⟩ := valid.natural
  rw [trim_of_scan scanned]
  refine ⟨rfl,_,(parse_comparison_iff .less accepted).mpr ⟨w,scanned,valid,rfl⟩,bound,numeral,small,
    comparesIntegers_of_bound denoted,?_⟩
  rintro count padded rfl short
  have wide : Number.Numeral (String.ofList (List.replicate count '0') ++ w).toList bound := by
    simpa using Number.numeral_zeros numeral count
  have long := isBound_of_numeral wide small short
  have same := Number.readInt64?_eq_some_iff.mpr ⟨.plain wide,by constructor <;> omega⟩
  exact ⟨_,_,parse_comparison .greater accepted long,parse_comparison .less accepted long,
    comparesIntegers_of_bound same⟩

theorem parse_compares_integers_largest :
    checkKey "a" = .ok () ∧
    parse ("a" ++ ">" ++ " 09223372036854775806") =
      .ok ⟨[⟨"a",.greaterThan "09223372036854775806"⟩]⟩ ∧
    ∃ less, parse ("a" ++ "<" ++ " 09223372036854775806") = .ok less ∧
      ∃ bound : Nat, Number.Numeral "09223372036854775806".toList bound ∧
        ComparesIntegers "a" bound ⟨[⟨"a",.greaterThan "09223372036854775806"⟩]⟩ less := by
  have accepted : checkKey "a" = .ok () := by decide +kernel
  have read : parse ("a" ++ ">" ++ " 09223372036854775806") =
      .ok ⟨[⟨"a",.greaterThan "09223372036854775806"⟩]⟩ := by decide +kernel
  obtain ⟨_,less,below,bound,numeral,_,compared,_⟩ := parse_compares_integers accepted read
  have trimmed : Text.trim " 09223372036854775806" = "09223372036854775806" := by decide +kernel
  rw [trimmed] at numeral
  exact ⟨accepted,read,less,below,bound,numeral,compared⟩

/-- The least integer of 64 bits is still compared, the one before it is not. -/
example :
    isMetBy ⟨[⟨"a",.lessThan "0"⟩]⟩ (LabelSet.ofList [("a","-9223372036854775808")]) = true ∧
    isMetBy ⟨[⟨"a",.lessThan "0"⟩]⟩ (LabelSet.ofList [("a","-9223372036854775809")]) = false := by
  decide +kernel

end Selector
end ObjectMetrics
