import Mathlib.Tactic.SplitIfs
import ObjectMetrics.Text.Utf8

/-! Encoded text reads back. The first byte of an encoded character tells how many follow, and the
second is in the range that the first one leaves for it, so the reader stops at the end of the
character and nowhere before. -/
namespace ObjectMetrics.Text

private theorem leadingByte_two : ∀ a < 32, 2 ≤ a → leadingByte (a + 0xC0) = some (1,a) := by decide

private theorem leadingByte_three : ∀ a < 16, leadingByte (a + 0xE0) = some (2,a) := by decide

private theorem leadingByte_four : ∀ a < 5, leadingByte (a + 0xF0) = some (3,a) := by decide

/-- The second byte gives the six bits `k`; they are restricted after four of the first bytes. -/
private theorem mem_secondByteRange (first k : Nat) (small : k < 64)
    (overlong₃ : first = 0xE0 → 32 ≤ k) (surrogate : first = 0xED → k < 32)
    (overlong₄ : first = 0xF0 → 16 ≤ k) (beyond : first = 0xF4 → k < 16) :
    (secondByteRange first).1 ≤ k + 0x80 ∧ k + 0x80 ≤ (secondByteRange first).2 := by
  unfold secondByteRange
  split_ifs <;> grind

private theorem continuation_cons {n acc k : Nat} {range : Nat × Nat} (small : k < 64)
    (within : range.1 ≤ k + 0x80 ∧ k + 0x80 ≤ range.2) (bs : Bytes) :
    continuation (n + 1) range acc (UInt8.ofNat (k + 0x80) :: bs) =
      continuation n (0x80,0xBF) (acc * 64 + k) bs := by
  have value : (UInt8.ofNat (k + 0x80)).toNat = k + 0x80 := by
    simp only [UInt8.toNat_ofNat']
    omega
  simp only [continuation,value,within,decide_true,Bool.and_self,if_true,Nat.add_sub_cancel]

private theorem continuation_tail (n acc v : Nat) (bs : Bytes) :
    continuation (n + 1) (0x80,0xBF) acc (UInt8.ofNat (v % 64 + 0x80) :: bs) =
      continuation n (0x80,0xBF) (acc * 64 + v % 64) bs :=
  continuation_cons (by omega) (by omega) bs

private theorem utf8Step_of_continuation {first n bits code : Nat} {bs rest : Bytes}
    (byte : first < 256) (leads : leadingByte first = some (n,bits))
    (read : continuation n (secondByteRange first) bits bs = .ok (code,rest)) :
    utf8Step (UInt8.ofNat first) bs = (some (Char.ofNat code),rest) := by
  have value : (UInt8.ofNat first).toNat = first := by
    simp only [UInt8.toNat_ofNat']
    omega
  simp only [utf8Step,value,leads,read]

theorem utf8Step_encode (c : Char) (rest : Bytes) :
    ∃ b bs, String.utf8EncodeChar c = b :: bs ∧ utf8Step b (bs ++ rest) = (some c,rest) := by
  have scalar : c.val.toNat < 0xD800 ∨ 0xDFFF < c.val.toNat ∧ c.val.toNat < 0x110000 := c.valid
  have char : Char.ofNat c.val.toNat = c := Char.ofNat_toNat c
  unfold String.utf8EncodeChar
  generalize c.val.toNat = v at scalar char
  subst char
  dsimp only
  split_ifs with one two three
  · refine ⟨_,_,rfl,utf8Step_of_continuation (by omega) (if_pos (by omega)) rfl⟩
  · refine ⟨_,_,rfl,?_⟩
    have leads := leadingByte_two (v / 64 % 32) (by omega) (by omega)
    have second := mem_secondByteRange (v / 64 % 32 + 0xC0) (v % 64) (by omega) (by omega)
      (by omega) (by omega) (by omega)
    refine utf8Step_of_continuation (by omega) leads ?_
    rw [List.singleton_append,continuation_cons (by omega) second]
    simp only [continuation,show v / 64 % 32 * 64 + v % 64 = v by omega]
  · refine ⟨_,_,rfl,?_⟩
    have leads := leadingByte_three (v / 4096 % 16) (by omega)
    have second := mem_secondByteRange (v / 4096 % 16 + 0xE0) (v / 64 % 64) (by omega) (by omega)
      (by omega) (by omega) (by omega)
    refine utf8Step_of_continuation (by omega) leads ?_
    rw [List.cons_append,List.singleton_append,continuation_cons (by omega) second,continuation_tail]
    simp only [continuation,show (v / 4096 % 16 * 64 + v / 64 % 64) * 64 + v % 64 = v by omega]
  · refine ⟨_,_,rfl,?_⟩
    have leads := leadingByte_four (v / 262144 % 8) (by omega)
    have second := mem_secondByteRange (v / 262144 % 8 + 0xF0) (v / 4096 % 64) (by omega)
      (by omega) (by omega) (by omega) (by omega)
    refine utf8Step_of_continuation (by omega) leads ?_
    rw [List.cons_append,List.cons_append,List.singleton_append,
      continuation_cons (by omega) second,continuation_tail,continuation_tail]
    simp only [continuation,show ((v / 262144 % 8 * 64 + v / 4096 % 64) * 64 + v / 64 % 64) * 64 +
      v % 64 = v by omega]

theorem decodeUtf8Lossy_cons (b : UInt8) (bs : Bytes) :
    decodeUtf8Lossy (b :: bs) =
      (utf8Step b bs).1.getD '\uFFFD' :: decodeUtf8Lossy (utf8Step b bs).2 := by
  rw [decodeUtf8Lossy]

theorem decodeUtf8Lossy_encode (cs : List Char) :
    decodeUtf8Lossy (cs.flatMap String.utf8EncodeChar) = cs := by
  induction cs with
  | nil => rw [List.flatMap_nil,decodeUtf8Lossy]
  | cons c cs ih =>
    obtain ⟨b,bs,encoded,read⟩ := utf8Step_encode c (cs.flatMap String.utf8EncodeChar)
    rw [List.flatMap_cons,encoded,List.cons_append,decodeUtf8Lossy_cons,read,ih]
    rfl

end ObjectMetrics.Text
