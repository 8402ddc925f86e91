import Mathlib.Algebra.GroupWithZero.Nat
import ObjectMetrics.Proofs.Catalog.Spelling

/-! Singulars of regular and of listed plurals. The rules for regular plurals, told by the endings that
they look for, cut no character apart, and leave nothing that they would change again; a listed plural
has the singular it was listed with last. -/
namespace ObjectMetrics

namespace Text

def byteCount (cs : List Char) : Nat := (cs.map Char.utf8Size).sum

/-- What stands before a byte; nothing if the byte is inside a character or behind the end. -/
def upToByte? (n : Nat) : List Char → Option (List Char)
  | [] => if n = 0 then some [] else none
  | c :: cs =>
    if n = 0 then some []
    else if c.utf8Size ≤ n then (upToByte? (n - c.utf8Size) cs).map (c :: ·) else none

theorem upToByte?_append (front back : List Char) :
    upToByte? (byteCount front) (front ++ back) = some front := by
  induction front with
  | nil => cases back <;> rfl
  | cons c front ih =>
    have size : byteCount (c :: front) = c.utf8Size + byteCount front := rfl
    have positive := c.utf8Size_pos
    rw [List.cons_append,upToByte?,if_neg (by omega),if_pos (by omega),size,Nat.add_sub_cancel_left,ih]
    rfl

theorem isSuffixOf?_reverse_eq_some_iff {ending word stem : List Char} :
    ending.isSuffixOf? word.reverse = some stem.reverse ↔ word = ending.reverse ++ stem := by
  rw [List.isSuffixOf?_eq_some_iff_append_eq,← List.reverse_inj,List.reverse_append,
    List.reverse_reverse,List.reverse_reverse,eq_comm]

end Text

namespace Inflection

/-! The rules as a reader tells them, by the endings of a word. -/

def iesStem? (word : List Char) : Option (List Char) :=
  ("ies".toList.isSuffixOf? word).filter (· ≠ [])

def hissing : List String := ["sses","xes","zes","ches","shes"]

def hisses (word : List Char) : Bool := hissing.any fun ending => ending.toList.isSuffixOf word

def plainStem? (word : List Char) : Option (List Char) :=
  ("s".toList.isSuffixOf? word).filter fun stem => stem ≠ [] ∧ stem.getLast? ≠ some 's'

/-- The singular of a regular plural, by the first rule that fits its ending. There is none if the
rule cuts a character apart: the two bytes that a hissing ending loses are counted, not read. -/
def singularByEnding? (word : List Char) : Option (List Char) :=
  match iesStem? word with
  | some stem => some (stem ++ ['y'])
  | none =>
    if hisses word then Text.upToByte? (Text.byteCount word - 2) word
    else match plainStem? word with
      | some stem => some stem
      | none => some word

/-! What the rules find in a word that is spelled backwards. -/

theorem iesStem?_reverse_eq_some_iff {word stem : List Char} :
    iesStem? word.reverse = some stem.reverse ↔ word = 's' :: 'e' :: 'i' :: stem ∧ stem ≠ [] := by
  rw [iesStem?,Option.filter_eq_some_iff,Text.isSuffixOf?_reverse_eq_some_iff,decide_eq_true_iff,
    List.reverse_ne_nil_iff]
  rfl

theorem iesStem?_reverse_eq_none {word : List Char}
    (other : ∀ c stem, word ≠ 's' :: 'e' :: 'i' :: c :: stem) : iesStem? word.reverse = none := by
  rw [Option.eq_none_iff_forall_ne_some]
  intro stem found
  rw [← stem.reverse_reverse,iesStem?_reverse_eq_some_iff] at found
  obtain ⟨c,rest,turned⟩ := List.exists_cons_of_ne_nil found.2
  exact other c rest (turned ▸ found.1)

theorem hisses_reverse_iff {word : List Char} :
    hisses word.reverse ↔ ∃ ending ∈ hissing, ending.toList.reverse <+: word := by
  simp only [hisses,List.any_eq_true,List.isSuffixOf_iff_suffix]
  refine exists_congr fun ending => and_congr_right fun _ => ?_
  rw [← List.reverse_prefix,List.reverse_reverse]

theorem hisses_reverse_cases {word : List Char} (sound : hisses word.reverse) :
    ∃ stem, word = 's' :: 'e' :: 's' :: 's' :: stem ∨ word = 's' :: 'e' :: 'x' :: stem ∨
      word = 's' :: 'e' :: 'z' :: stem ∨ word = 's' :: 'e' :: 'h' :: 'c' :: stem ∨
      word = 's' :: 'e' :: 'h' :: 's' :: stem := by
  obtain ⟨ending,listed,stem,rfl⟩ := hisses_reverse_iff.mp sound
  refine ⟨stem,?_⟩
  revert ending
  simp [hissing]

theorem plainStem?_reverse_eq_some_iff {word stem : List Char} :
    plainStem? word.reverse = some stem.reverse ↔
      word = 's' :: stem ∧ stem ≠ [] ∧ stem.head? ≠ some 's' := by
  rw [plainStem?,Option.filter_eq_some_iff,Text.isSuffixOf?_reverse_eq_some_iff,decide_eq_true_iff,
    List.reverse_ne_nil_iff,List.getLast?_reverse]
  rfl

theorem plainStem?_reverse_eq_none {word : List Char}
    (other : ∀ c stem, c ≠ 's' → word ≠ 's' :: c :: stem) : plainStem? word.reverse = none := by
  rw [Option.eq_none_iff_forall_ne_some]
  intro stem found
  rw [← stem.reverse_reverse,plainStem?_reverse_eq_some_iff] at found
  obtain ⟨c,rest,turned⟩ := List.exists_cons_of_ne_nil found.2.1
  rw [turned] at found
  exact other c rest (by simpa using found.2.2) found.1

/-! The two ways of the rules after the first. -/

theorem upToByte?_es (stem : List Char) :
    Text.upToByte? (Text.byteCount ('s' :: 'e' :: stem).reverse - 2) ('s' :: 'e' :: stem).reverse =
      some stem.reverse := by
  have small : 's'.utf8Size = 1 ∧ 'e'.utf8Size = 1 := by decide
  have size : Text.byteCount ('s' :: 'e' :: stem).reverse - 2 = Text.byteCount stem.reverse := by
    simp [Text.byteCount,small.1,small.2]
  rw [size,List.reverse_cons,List.reverse_cons,List.append_assoc]
  exact Text.upToByte?_append _ _

theorem singularByEnding?_of_hisses {stem : List Char} (sound : hisses ('s' :: 'e' :: stem).reverse) :
    singularByEnding? ('s' :: 'e' :: stem).reverse = some stem.reverse := by
  have other : iesStem? ('s' :: 'e' :: stem).reverse = none := by
    apply iesStem?_reverse_eq_none
    have ends := hisses_reverse_cases sound
    grind
  simp only [singularByEnding?,other,if_pos sound]
  exact upToByte?_es stem

theorem singularByEnding?_of_not_hisses {word : List Char}
    (other : ∀ c stem, word ≠ 's' :: 'e' :: 'i' :: c :: stem) (silent : ¬ hisses word.reverse) :
    singularByEnding? word.reverse = some ((plainStem? word.reverse).getD word.reverse) := by
  simp only [singularByEnding?,iesStem?_reverse_eq_none other,if_neg silent]
  cases plainStem? word.reverse <;> rfl

/-- No rule cuts a character apart, and reading from the back finds the same rule. -/
theorem singularByEnding?_reverse (word : List Char) :
    singularByEnding? word.reverse = some (singularBackwards word).reverse := by
  fun_cases singularBackwards word
  case case1 c stem =>
    have found := iesStem?_reverse_eq_some_iff.mpr ⟨rfl,List.cons_ne_nil c stem⟩
    rw [singularByEnding?,found]
    simp only [List.reverse_cons]
  case case2 => exact singularByEnding?_of_hisses (hisses_reverse_iff.mpr ⟨"sses",by decide,_,rfl⟩)
  case case3 => exact singularByEnding?_of_hisses (hisses_reverse_iff.mpr ⟨"xes",by decide,_,rfl⟩)
  case case4 => exact singularByEnding?_of_hisses (hisses_reverse_iff.mpr ⟨"zes",by decide,_,rfl⟩)
  case case5 => exact singularByEnding?_of_hisses (hisses_reverse_iff.mpr ⟨"ches",by decide,_,rfl⟩)
  case case6 => exact singularByEnding?_of_hisses (hisses_reverse_iff.mpr ⟨"shes",by decide,_,rfl⟩)
  case case7 stem =>
    have silent : ¬ hisses ('s' :: 's' :: stem).reverse := by grind [hisses_reverse_cases]
    rw [singularByEnding?_of_not_hisses (by simp) silent,plainStem?_reverse_eq_none (by grind)]
    rfl
  case case8 c stem _ _ _ _ _ _ other =>
    have silent : ¬ hisses ('s' :: c :: stem).reverse := by grind [hisses_reverse_cases]
    have found := plainStem?_reverse_eq_some_iff.mpr ⟨rfl,List.cons_ne_nil c stem,by simpa using other⟩
    rw [singularByEnding?_of_not_hisses (by grind) silent,found]
    rfl
  case case9 =>
    have silent : ¬ hisses word.reverse := by grind [hisses_reverse_cases]
    rw [singularByEnding?_of_not_hisses (by grind) silent,plainStem?_reverse_eq_none (by grind)]
    rfl

/-! What the rules leave. -/

theorem singularBackwards_of_head?_ne {word : List Char} (other : word.head? ≠ some 's') :
    singularBackwards word = word := by
  cases word with
  | nil => rfl
  | cons c stem =>
    have different : c ≠ 's' := by simpa using other
    simp [singularBackwards,different]

theorem singularBackwards_idem (word : List Char) :
    singularBackwards (singularBackwards word) = singularBackwards word := by
  fun_cases singularBackwards word
  -- A hissing ending may leave a double `s`, which is no plural; all other stems end otherwise.
  case case2 stem => rfl
  case case7 stem => rfl
  case case8 other => exact singularBackwards_of_head?_ne (by simpa using other)
  case case9 => grind [singularBackwards]
  all_goals exact singularBackwards_of_head?_ne (by simp)

theorem singularBackwards_ne_nil {word : List Char} (filled : word ≠ []) :
    singularBackwards word ≠ [] := by
  fun_cases singularBackwards word
  case case9 => exact filled
  all_goals exact List.cons_ne_nil _ _

variable (word : String)

theorem singular_regular : regular.singular word = regularSingular (Text.lower word) := rfl

theorem singularByEnding?_lower :
    singularByEnding? (Text.lower word).toList = some (regular.singular word).toList := by
  rw [singular_regular,regularSingular,String.toList_ofList,← singularByEnding?_reverse,
    List.reverse_reverse]

theorem lower_singular_regular : Text.lower (regular.singular word) = regular.singular word :=
  lower_regularSingular (Text.lower_lower word)

theorem isUpper_singular_regular : ∀ c ∈ (regular.singular word).toList, c.isUpper = false := by
  intro c member
  have small := Text.lower_eq_self_iff.mp (lower_singular_regular word) c member
  refine Bool.eq_false_iff.mpr fun capital => ?_
  have range : 'A'.val ≤ c.val ∧ c.val ≤ 'Z'.val := of_decide_eq_true capital
  have moved : c.toLower.val = c.val + ('a'.val - 'A'.val) := congrArg Char.val (dif_pos range)
  rw [small] at moved
  simp at moved

theorem singular_regular_ne_empty {word : String} (filled : word ≠ "") :
    regular.singular word ≠ "" := by
  intro empty
  have vanished : singularBackwards (Text.lower word).toList.reverse = [] := by
    simpa [singular_regular,regularSingular] using empty
  exact singularBackwards_ne_nil (by simpa using filled) vanished

theorem singular_regular_idem :
    regular.singular (regular.singular word) = regular.singular word := by
  rw [singular_regular,lower_singular_regular,singular_regular]
  simp only [regularSingular,String.toList_ofList,List.reverse_reverse,singularBackwards_idem]

/-! The table of irregular plurals. -/

theorem irregular_foldl_add (inflection : Inflection) (entries : List (String × String)) :
    (entries.foldl (fun inflection entry => inflection.add entry.1 entry.2) inflection).irregular =
      (entries.reverse.map fun entry => (Text.lower entry.1,Text.lower entry.2)) ++
        inflection.irregular := by
  induction entries generalizing inflection with
  | nil => rfl
  | cons entry entries ih =>
    rw [List.foldl_cons,ih,List.reverse_cons,List.map_append,List.append_assoc]
    rfl

theorem singular_ofList (entries : List (String × String)) :
    (ofList entries).singular word =
      ((entries.filter fun entry => Text.SameSpelling word entry.1).getLast?.map fun entry =>
        Text.lower entry.2).getD (regular.singular word) := by
  have table : (ofList entries).irregular =
      entries.reverse.map fun entry => (Text.lower entry.1,Text.lower entry.2) := by
    rw [ofList,irregular_foldl_add]
    exact List.append_nil _
  have last : (entries.filter fun entry => Text.SameSpelling word entry.1).getLast? =
      entries.reverse.find? fun entry => Text.lower entry.1 = Text.lower word := by
    rw [List.getLast?_filter]
    exact congrArg (entries.reverse.find? ·) (funext fun _ => decide_eq_decide.mpr eq_comm)
  have entered : ((ofList entries).irregular.find? fun entry => entry.1 = Text.lower word) =
      (entries.reverse.find? fun entry => Text.lower entry.1 = Text.lower word).map fun entry =>
        (Text.lower entry.1,Text.lower entry.2) := by
    rw [table,List.find?_map]
    rfl
  rw [last,singular,entered]
  cases entries.reverse.find? fun entry => Text.lower entry.1 = Text.lower word with
  | none => rfl
  | some entry => rfl

/-- The singular of a word depends on its small letters only, and is the last one that was entered for
it, the one by the rules if there is none. The rules cut no character apart, leave no capitals, empty
no word, and change nothing that they have made. -/
theorem singular_regular_or_listed :
    (∀ word, singularByEnding? (Text.lower word).toList = some (regular.singular word).toList) ∧
    (∀ word other, Text.SameSpelling word other → regular.singular word = regular.singular other) ∧
    (∀ word, ∀ c ∈ (regular.singular word).toList, c.isUpper = false) ∧
    (∀ word, word ≠ "" → regular.singular word ≠ "") ∧
    (∀ word, regular.singular (regular.singular word) = regular.singular word) ∧
    ∀ (entries later : List (String × String)) word,
      (later.foldl (fun inflection entry => inflection.add entry.1 entry.2) (ofList entries)).singular
          word =
        (((entries ++ later).filter fun entry => Text.SameSpelling word entry.1).getLast?.map
          fun entry => Text.lower entry.2).getD (regular.singular word) := by
  refine ⟨singularByEnding?_lower,?_,isUpper_singular_regular,fun _ => singular_regular_ne_empty,
    singular_regular_idem,?_⟩
  · intro word other same
    rw [singular_regular,singular_regular,same]
  · intro entries later word
    rw [← singular_ofList,ofList,ofList,List.foldl_append]

theorem singular_regular_or_listed_capitals :
    Text.SameSpelling "ÄCHES" "Äches" ∧ regular.singular "ÄCHES" = regular.singular "Äches" ∧
    "ÄCHES" ≠ "" ∧ regular.singular "ÄCHES" ≠ "" ∧ regular.singular "Äches" = "Äch" ∧
    ((ofList [("mice","mouse"),("oxen","ox")]).add "MICE" "Mous").singular "Mice" = "mous" := by
  obtain ⟨_,folded,_,filled,_,listed⟩ := singular_regular_or_listed
  have same : Text.SameSpelling "ÄCHES" "Äches" := by decide
  exact ⟨same,folded "ÄCHES" "Äches" same,by decide,filled "ÄCHES" (by decide),by decide,
    listed [("mice","mouse"),("oxen","ox")] [("MICE","Mous")] "Mice"⟩

end Inflection

end ObjectMetrics
