import ObjectMetrics.Label.Name
import ObjectMetrics.Proofs.Selector.Spelling
import ObjectMetrics.Proofs.Text.Split

/-! Accepted keys and values are words: they hold no blank and no punctuation of selectors. -/
namespace ObjectMetrics.Label

private theorem ascii_of_isNameChar {c : Char} (allowed : isNameChar c) : c.toNat < 128 := by
  have below : ∀ {high : UInt32}, c.val ≤ high → high.toNat < 128 → c.toNat < 128 := by
    intro high le ascii
    exact Nat.lt_of_le_of_lt (UInt32.le_iff_toNat_le.mp le) ascii
  simp only [isNameChar,Bool.or_eq_true,decide_eq_true_eq] at allowed
  rcases allowed with ((letter | rfl) | rfl) | rfl
  · change ((c.isUpper || c.isLower) || c.isDigit) = true at letter
    simp only [Bool.or_eq_true] at letter
    rcases letter with (upper | lower) | digit
    · exact below (of_decide_eq_true upper).2 (by decide)
    · exact below (of_decide_eq_true (Bool.and_eq_true_iff.mp lower).2) (by decide)
    · exact below (of_decide_eq_true (Bool.and_eq_true_iff.mp digit).2) (by decide)
  all_goals decide

theorem isWordChar_of_isNameChar {c : Char} (allowed : isNameChar c) : isWordChar c := by
  have ascii : ∀ n < 128, isNameChar (Char.ofNat n) → isWordChar (Char.ofNat n) := by decide
  have found := ascii c.toNat (ascii_of_isNameChar allowed)
  rw [Char.ofNat_toNat] at found
  exact found allowed

private theorem isNameChar_of_isDomainChar {c : Char} (allowed : isDomainChar c) :
    isNameChar c := by
  simp only [isDomainChar,Bool.or_eq_true,decide_eq_true_eq] at allowed
  change (((((c.isUpper || c.isLower) || c.isDigit) || c = '-') || c = '_') || c = '.') = true
  rcases allowed with (lower | digit) | dash
  · simp [lower]
  · simp [digit]
  · simp [dash]

theorem checkName_eq_ok {s : String} (accepted : checkName s = .ok ()) :
    s ≠ "" ∧ ∀ c ∈ s.toList, isNameChar c := by
  unfold checkName at accepted
  split at accepted
  · simp at accepted
  · rename_i sized
    split at accepted
    · rename_i spelled
      simp only [isNameText,Bool.and_eq_true,List.all_eq_true] at spelled
      refine ⟨?_,spelled.2⟩
      rintro rfl
      simp at sized
    · simp at accepted

private theorem isNameChar_of_isDomain {s : String} (valid : isDomain s) :
    ∀ c ∈ s.toList, isNameChar c := by
  intro c member
  simp only [isDomain,isDomainPart,Bool.and_eq_true,List.all_eq_true] at valid
  rcases Text.mem_splitAll '.' member with rfl | ⟨piece,found,inside⟩
  · decide
  · exact isNameChar_of_isDomainChar ((valid.2 piece found).1.1.2 c inside)

theorem isWord_of_checkName {w : String} (accepted : checkName w = .ok ()) : IsWord w :=
  ⟨(checkName_eq_ok accepted).1,fun c member =>
    isWordChar_of_isNameChar ((checkName_eq_ok accepted).2 c member)⟩

theorem isWord_of_checkKey {w : String} (accepted : checkKey w = .ok ()) : IsWord w := by
  unfold checkKey at accepted
  split at accepted
  · rename_i domain name cut
    split at accepted
    · rename_i valid
      have parts := (Text.cut?_eq_some_iff.mp cut).1
      refine ⟨?_,?_⟩
      · rintro rfl
        simp at parts
      · intro c member
        rw [parts,List.mem_append,List.mem_cons] at member
        rcases member with front | rfl | back
        · exact isWordChar_of_isNameChar (isNameChar_of_isDomain valid c front)
        · decide
        · exact (isWord_of_checkName accepted).2 c back
    · simp at accepted
  · exact isWord_of_checkName accepted

end ObjectMetrics.Label
