import ObjectMetrics.Number.Decimal
import Mathlib.Algebra.Group.Nat.Defs

/-! Rounding decimals to binary64. Cutting an exponent far outside the range of binary64 changes no
value: what is so large overflows, and what is so small vanishes. -/
namespace ObjectMetrics.Number
open Float.Model UnpackedFloat

theorem mantissa_shiftRight (em : ExtendedMantissa) (count : Nat) :
    (em >>> count).mantissa = em.mantissa / 2^count := by
  induction count with
  | zero => exact (Nat.div_one _).symm
  | succ count ih =>
    change (em >>> count).mantissa / 2 = _
    rw [ih,Nat.div_div_eq_div_mul,Nat.pow_succ]

theorem le_roundedMantissa (em : ExtendedMantissa) : em.mantissa ≤ em.roundedMantissa := by
  rcases em with ⟨m,_ | _,_ | _⟩ <;>
    simp [ExtendedMantissa.roundedMantissa,ExtendedMantissa.accuracy,Accuracy.roundToNearestEven]

theorem targetExponent_binary64 (total : Int) :
    Format.binary64.targetExponent total = max (total - 53) (-1074) := by
  rw [Format.targetExponent]
  rfl

/-- Shifting leaves some bits of a mantissa, and an exponent that fits its size. -/
theorem shiftToTargetExponent_keeps {m : Nat} {e e' : Int} {accuracy : Accuracy}
    {em : ExtendedMantissa} (filled : 0 < m) (within : -1074 ≤ e)
    (shifted : shiftToTargetExponent Format.binary64 m e accuracy = (em,e')) :
    0 < em.mantissa ∧ e ≤ e' ∧ totalExponent m e - 53 ≤ e' := by
  have total : Format.binary64.targetExponent (totalExponent m e) =
      max (m.log2 + 1 + e - 53) (-1074) := targetExponent_binary64 _
  have start : (ExtendedMantissa.ofMantissaAndAccuracy m accuracy).mantissa = m := by
    rcases accuracy with _ | (_ | _ | _) <;> rfl
  rw [shiftToTargetExponent,total] at shifted
  obtain ⟨rfl,rfl⟩ := Prod.mk.inj shifted
  rw [totalExponent]
  refine ⟨?_,by omega,by omega⟩
  rw [mantissa_shiftRight,start]
  apply Nat.div_pos _ (Nat.two_pow_pos _)
  have bits : (max ((m.log2 : Int) + 1 + e - 53) (-1074) - e).toNat ≤ m.log2 := by omega
  exact Nat.le_trans (Nat.pow_le_pow_right Nat.two_pos bits) (Nat.log2_self_le (Nat.ne_of_gt filled))

theorem pack_of_large {sign : Sign} {m : Nat} {e : Int} (filled : 0 < m) (large : 972 ≤ e) :
    UnpackedFloat.pack Format.binary64 (.finite sign m e filled) =
      packedInfinity Format.binary64 sign := by
  have beyond : 2^Format.binary64.exponentBits ≤ (e + Format.binary64.exponentBias +
      Format.binary64.mantissaBitsWithoutImplicit).toNat + 1 := by
    change 2048 ≤ (e + 1023 + 52).toNat + 1
    omega
  exact if_pos beyond

/-- What has its leading bit beyond the largest exponent overflows. -/
theorem pack_round_of_large {sign : Sign} {m : Nat} {e : Int} {accuracy : Accuracy} (filled : 0 < m)
    (within : -1074 ≤ e) (large : 1025 ≤ totalExponent m e) :
    UnpackedFloat.pack Format.binary64 (roundWithAccuracy Format.binary64 sign m e accuracy) =
      packedInfinity Format.binary64 sign := by
  rw [roundWithAccuracy]
  rcases shifted : shiftToTargetExponent Format.binary64 m e accuracy with ⟨em,e'⟩
  obtain ⟨positive,above,top⟩ := shiftToTargetExponent_keeps filled within shifted
  have rounded := Nat.lt_of_lt_of_le positive (le_roundedMantissa em)
  dsimp only
  rcases again : shiftToTargetExponent Format.binary64 em.roundedMantissa e' .exact with ⟨final,last⟩
  obtain ⟨left,later,_⟩ := shiftToTargetExponent_keeps rounded (by omega) again
  dsimp only
  rw [dif_neg (Nat.ne_of_gt left)]
  exact pack_of_large left (by omega)

theorem two_pow_le_ten_pow (k : Nat) : 2^(3 * k) ≤ 10^k := by
  rw [Nat.pow_mul]
  exact Nat.pow_le_pow_left (by decide) k

theorem ofScientific_zero (s : Bool) {k : Nat} (far : 22 < k) :
    Float.ofScientific 0 s k = .ofModel (.pack (.zero .positive)) := by
  rw [Float.ofScientific,dif_neg (by omega)]
  rfl

theorem ofScientific_of_large {m k : Nat} (filled : m ≠ 0) (large : 400 ≤ k) :
    Float.ofScientific m false k = .ofModel (.pack (.infinity .positive)) := by
  rw [Float.ofScientific,dif_neg (by omega)]
  apply congrArg Float.ofModel
  change Float.Model.pack (UnpackedFloat.ofScientific Format.binary64 m k) = _
  rw [UnpackedFloat.ofScientific,dif_neg filled]
  by_cases huge : (k : Int) > 2^Format.binary64.exponentBits
  · rw [if_pos huge]
  rw [if_neg huge,if_neg (by omega),if_pos (by omega),Float.Model.pack,Float.Model.pack]
  have size : 2^(53 + 3 * k) ≤ m <<< 53 * 10^k := by
    rw [Nat.shiftLeft_eq,Nat.pow_add]
    exact Nat.mul_le_mul (Nat.le_mul_of_pos_left _ (Nat.pos_of_ne_zero filled)) (two_pow_le_ten_pow k)
  have positive := Nat.lt_of_lt_of_le (Nat.two_pow_pos _) size
  have top := (Nat.le_log2 (Nat.ne_of_gt positive)).mpr size
  have product : UnpackedFloat.pack Format.binary64
      (roundWithAccuracy Format.binary64 (.positive * .positive) (m <<< 53 * 10^k) (-53 + 0) .exact) =
      packedInfinity Format.binary64 .positive := by
    apply pack_round_of_large positive (by decide)
    rw [totalExponent]
    omega
  rw [Float.Model.mk.injEq]
  exact congrArg UInt64.ofBitVec product

theorem two_mul_shiftLeft_lt {m bits k : Nat} (small : m.log2 + bits + 2 ≤ 3 * k) :
    2 * (m <<< bits) < 10^k := by
  have above : m < 2^(m.log2 + 1) := Nat.lt_log2_self
  rw [Nat.shiftLeft_eq]
  calc
    2 * (m * 2^bits) < 2 * (2^(m.log2 + 1) * 2^bits) := by
      have positive := Nat.two_pow_pos bits
      exact Nat.mul_lt_mul_of_pos_left (Nat.mul_lt_mul_of_pos_right above positive) Nat.two_pos
    _ = 2^(m.log2 + bits + 2) := by
      rw [← Nat.pow_add,← Nat.pow_succ',Nat.add_right_comm]
    _ ≤ 2^(3 * k) := Nat.pow_le_pow_right Nat.two_pos small
    _ ≤ 10^k := two_pow_le_ten_pow k

/-- A quotient below half of the least positive number leaves nothing but that it is inexact. -/
theorem divCore_of_small {m k : Nat} (filled : m ≠ 0) (small : m.log2 + 1076 ≤ 3 * k) :
    divCore Format.binary64 m 0 (10^k) 0 = (0,-1074,.inexact .lt) := by
  have size : 3 * k ≤ (10^k).log2 :=
    (Nat.le_log2 (Nat.ne_of_gt (Nat.pow_pos (by decide)))).mpr (two_pow_le_ten_pow k)
  have target : min (0 - 0) (Format.binary64.targetExponent
      (totalExponent m 0 - totalExponent (10^k) 0)) = -1074 := by
    rw [targetExponent_binary64,totalExponent,totalExponent]
    omega
  have room : 2 * (m <<< 1074) < 10^k := two_mul_shiftLeft_lt small
  have nonzero : m <<< 1074 ≠ 0 := by
    rw [Nat.shiftLeft_eq]
    exact Nat.mul_ne_zero filled (Nat.ne_of_gt (Nat.two_pow_pos 1074))
  have shift : ((0 : Int) - 0 - -1074).toNat = 1074 := rfl
  rw [divCore,target,shift]
  generalize m <<< 1074 = shifted at room nonzero
  have below : shifted < 10^k := by omega
  rw [Nat.div_eq_of_lt below,Nat.mod_eq_of_lt below,accuracyOfFraction,if_neg nonzero,
    Nat.compare_eq_lt.mpr room]

theorem ofScientific_of_small {m k : Nat} (small : 401 + m.log2 ≤ k) :
    Float.ofScientific m true k = .ofModel (.pack (.zero .positive)) := by
  rw [Float.ofScientific,dif_neg (by omega)]
  apply congrArg Float.ofModel
  have minus : Int.negOfNat k = -(k : Int) := Int.negOfNat_eq
  have range : (2 : Int)^Format.binary64.exponentBits = 2048 := rfl
  change Float.Model.pack (UnpackedFloat.ofScientific Format.binary64 m (Int.negOfNat k)) = _
  rw [minus,UnpackedFloat.ofScientific,range]
  by_cases zero : m = 0
  · rw [dif_pos zero]
  rw [dif_neg zero,if_neg (by omega)]
  by_cases tiny : -(k : Int) < -(2048 + m.log2)
  · rw [if_pos tiny]
  have quotient : divCore Format.binary64 m 0 (10^(- -(k : Int)).toNat) 0 =
      (0,-1074,.inexact .lt) := divCore_of_small zero (by omega)
  rw [if_neg tiny,if_neg (by omega)]
  change Float.Model.pack (
    let (left,e,accuracy) := divCore Format.binary64 m 0 (10^(- -(k : Int)).toNat) 0
    roundWithAccuracy Format.binary64 (.positive / .positive) left e accuracy) = _
  rw [quotient]
  rfl

namespace Decimal

/-- The nearest binary64 value of a decimal as the library finds it, whatever its exponent. -/
def rounded (d : Decimal) : Float :=
  let magnitude := Float.ofScientific d.digits (decide (d.exponent < 0)) d.exponent.natAbs
  if d.negative then -magnitude else magnitude

/-- Neither cut is seen: beyond the one every decimal but zero overflows, beyond the other all
vanish. -/
theorem ofScientific_cutExponent (d : Decimal) :
    Float.ofScientific d.digits (decide (d.cutExponent < 0)) d.cutExponent.natAbs =
      Float.ofScientific d.digits (decide (d.exponent < 0)) d.exponent.natAbs := by
  have cut : d.cutExponent = max (-↑(400 + d.digits.log2 + 1)) (min d.exponent 400) := rfl
  rcases Int.lt_or_le 400 d.exponent with large | small
  · have most : d.cutExponent = 400 := by omega
    rw [most,decide_eq_false (by decide),decide_eq_false (by omega)]
    by_cases zero : d.digits = 0
    · rw [zero,ofScientific_zero _ (by decide),ofScientific_zero _ (by omega)]
    · rw [ofScientific_of_large zero (by decide),ofScientific_of_large zero (by omega)]
  rcases Int.lt_or_le d.exponent (-(d.digits.log2 + 401)) with tiny | within
  · rw [decide_eq_true (by omega),decide_eq_true (by omega),ofScientific_of_small (by omega),
      ofScientific_of_small (by omega)]
  · have kept : d.cutExponent = d.exponent := by omega
    rw [kept]

theorem toFloat_eq_rounded (d : Decimal) : d.toFloat = d.rounded := by
  have size : (if d.cutExponent < 0 then Float.ofScientific d.digits true (-d.cutExponent).toNat
      else Float.ofScientific d.digits false d.cutExponent.toNat) =
      Float.ofScientific d.digits (decide (d.exponent < 0)) d.exponent.natAbs := by
    rw [← ofScientific_cutExponent]
    split
    · rename_i below
      rw [decide_eq_true below,show (-d.cutExponent).toNat = d.cutExponent.natAbs by omega]
    · rename_i above
      rw [decide_eq_false above,show d.cutExponent.toNat = d.cutExponent.natAbs by omega]
  rw [toFloat,rounded,size]

end Decimal
end ObjectMetrics.Number
