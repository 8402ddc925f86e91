/-!
Letter case. Resource names compare without regard to the case of ASCII letters; letters outside
ASCII keep their case, so folding never changes the length of a name. Names of settings also take the
one letter outside ASCII whose small letter is in ASCII.
-/
namespace ObjectMetrics.Text

def lower (s : String) : String :=
  String.ofList (s.toList.map Char.toLower)

/-- Text with its ASCII capitals made small, and the Kelvin sign too, whose small letter is `k`. -/
def lowerKelvin (s : String) : String :=
  String.ofList (s.toList.map fun c => if c = '\u212a' then 'k' else c.toLower)

/-- Two spellings that differ at most in the case of ASCII letters. -/
def SameSpelling (s t : String) : Prop := lower s = lower t

instance (s t : String) : Decidable (SameSpelling s t) :=
  inferInstanceAs (Decidable (_ = _))

@[simp] theorem toList_lower (s : String) : (lower s).toList = s.toList.map Char.toLower := by
  simp [lower]

theorem toLower_toLower (c : Char) : c.toLower.toLower = c.toLower := by
  by_cases small : c.toNat < 128
  · have ascii : ∀ n < 128, (Char.ofNat n).toLower.toLower = (Char.ofNat n).toLower := by decide
    exact Char.ofNat_toNat c ▸ ascii c.toNat small
  · have same : c.toLower = c := by
      have big : ¬ c.val ≤ 'Z'.val := by
        simp only [UInt32.le_iff_toNat_le]
        exact fun le => small (Nat.lt_of_le_of_lt le (by decide))
      exact dif_neg fun h => big h.2
    rw [same, same]

@[simp] theorem lower_lower (s : String) : lower (lower s) = lower s := by
  simp only [lower, String.toList_ofList, List.map_map, Function.comp_def, toLower_toLower]

end ObjectMetrics.Text
