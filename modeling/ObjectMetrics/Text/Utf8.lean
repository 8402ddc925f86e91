/-!
UTF-8, read strictly or with replacement. The lossy reader replaces each longest beginning of a
character that can no longer be completed, and each byte that begins none, by one U+FFFD.
-/
namespace ObjectMetrics.Text

abbrev Bytes := List UInt8

def encodeUtf8 (s : String) : Bytes := s.toList.flatMap String.utf8EncodeChar

/-- How many bytes follow a first byte, and the bits that the first byte itself contributes. -/
def leadingByte (first : Nat) : Option (Nat × Nat) :=
  if first < 0x80 then some (0, first)
  else if first < 0xC2 then none
  else if first < 0xE0 then some (1, first - 0xC0)
  else if first < 0xF0 then some (2, first - 0xE0)
  else if first < 0xF5 then some (3, first - 0xF0)
  else none

/-- The second bytes that may follow a first byte. The range is narrower than usual where the usual
one would allow overlong forms, surrogates or numbers past the last code point. -/
def secondByteRange (first : Nat) : Nat × Nat :=
  if first = 0xE0 then (0xA0, 0xBF)
  else if first = 0xED then (0x80, 0x9F)
  else if first = 0xF0 then (0x90, 0xBF)
  else if first = 0xF4 then (0x80, 0x8F)
  else (0x80, 0xBF)

/-- Read `n` continuation bytes, the first of them in the given range, onto the bits read so far.
On failure the bytes from the offending one on are left. -/
def continuation : Nat → Nat × Nat → Nat → Bytes → Except Bytes (Nat × Bytes)
  | 0, _, acc, bs => .ok (acc, bs)
  | _ + 1, _, _, [] => .error []
  | n + 1, (lo, hi), acc, b :: bs =>
    if lo ≤ b.toNat && b.toNat ≤ hi then
      continuation n (0x80, 0xBF) (acc * 64 + (b.toNat - 0x80)) bs
    else .error (b :: bs)

def utf8Step (b : UInt8) (bs : Bytes) : Option Char × Bytes :=
  match leadingByte b.toNat with
  | none => (none, bs)
  | some (n, bits) =>
    match continuation n (secondByteRange b.toNat) bits bs with
    | .ok (code, rest) => (some (Char.ofNat code), rest)
    | .error rest => (none, rest)

theorem continuation_length (n : Nat) (range : Nat × Nat) (acc : Nat) (bs : Bytes) :
    match continuation n range acc bs with
    | .ok (_, rest) => rest.length ≤ bs.length
    | .error rest => rest.length ≤ bs.length := by
  fun_induction continuation n range acc bs with
  | case1 => exact Nat.le_refl _
  | case2 => exact Nat.le_refl _
  | case3 n lo hi acc b bs _ ih =>
    revert ih
    cases continuation n (0x80, 0xBF) (acc * 64 + (b.toNat - 0x80)) bs <;>
      exact fun ih => Nat.le_succ_of_le ih
  | case4 => exact Nat.le_refl _

theorem utf8Step_length (b : UInt8) (bs : Bytes) : (utf8Step b bs).2.length ≤ bs.length := by
  unfold utf8Step
  split
  · exact Nat.le_refl _
  · rename_i n bits _
    have := continuation_length n (secondByteRange b.toNat) bits bs
    split <;> rename_i h <;> simpa [h] using this

def decodeUtf8 : Bytes → Option (List Char)
  | [] => some []
  | b :: bs =>
    match utf8Step b bs, utf8Step_length b bs with
    | (some c, rest), _ => (decodeUtf8 rest).map (c :: ·)
    | (none, _), _ => none
termination_by bs => bs.length
decreasing_by rename_i within; exact Nat.lt_succ_of_le within

/-- The characters of a byte sequence, with U+FFFD where it is not UTF-8. -/
def decodeUtf8Lossy : Bytes → List Char
  | [] => []
  | b :: bs =>
    match utf8Step b bs, utf8Step_length b bs with
    | (c, rest), _ => c.getD '\uFFFD' :: decodeUtf8Lossy rest
termination_by bs => bs.length
decreasing_by rename_i within; exact Nat.lt_succ_of_le within

end ObjectMetrics.Text
