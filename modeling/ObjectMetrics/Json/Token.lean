import ObjectMetrics.Json.Number
import ObjectMetrics.Text.Percent
/-!
Tokens of JSON text. Where the text breaks the rules, an `invalid` token stands and the list ends;
whether that matters depends on whether anything reads so far.
-/
namespace ObjectMetrics.Json
open Text

inductive Token where
  | openList
  | closeList
  | openObject
  | closeObject
  | colon
  | comma
  | atom (value : Json)
  | text (s : String)
  | invalid

def readHex4 : Bytes → Option (Nat × Bytes)
  | a :: b :: c :: d :: rest =>
    match hexDigitValue a, hexDigitValue b, hexDigitValue c, hexDigitValue d with
    | some a, some b, some c, some d => some (a * 4096 + b * 256 + c * 16 + d, rest)
    | _, _, _, _ => none
  | _ => none

/-- The character of a `\u` escape; those outside the basic plane take two escapes in a row. -/
def readUnicodeEscape (bs : Bytes) : Option (Char × Bytes) :=
  match readHex4 bs with
  | none => none
  | some (n, rest) =>
    if n < 0xD800 || 0xDFFF < n then some (Char.ofNat n, rest)
    else if 0xDC00 ≤ n then none
    else
      match rest with
      | 0x5C :: 0x75 :: low =>
        match readHex4 low with
        | some (m, rest) =>
          if 0xDC00 ≤ m && m ≤ 0xDFFF then
            some (Char.ofNat (0x10000 + (n - 0xD800) * 0x400 + (m - 0xDC00)), rest)
          else none
        | none => none
      | _ => none

def plainEscape? (b : UInt8) : Option Char :=
  if b = 0x22 then some '"'
  else if b = 0x5C then some '\\'
  else if b = 0x2F then some '/'
  else if b = 0x62 then some '\x08'
  else if b = 0x66 then some '\x0c'
  else if b = 0x6E then some '\n'
  else if b = 0x72 then some '\r'
  else if b = 0x74 then some '\t'
  else none

def readEscape : Bytes → Option (Char × Bytes)
  | [] => none
  | b :: rest => if b = 0x75 then readUnicodeEscape rest else (plainEscape? b).map (·, rest)

theorem readHex4_length {bs rest : Bytes} {n : Nat} (h : readHex4 bs = some (n, rest)) :
    rest.length ≤ bs.length := by
  unfold readHex4 at h
  split at h
  · split at h <;> simp only [Option.some.injEq, Prod.mk.injEq, reduceCtorEq] at h
    simp [← h.2]; omega
  · simp at h

theorem readUnicodeEscape_length {bs rest : Bytes} {c : Char}
    (h : readUnicodeEscape bs = some (c, rest)) : rest.length ≤ bs.length := by
  unfold readUnicodeEscape at h
  split at h
  · simp at h
  · rename_i high
    have first := readHex4_length high
    repeat' split at h
    all_goals simp only [Option.some.injEq, Prod.mk.injEq, reduceCtorEq] at h
    · exact h.2 ▸ first
    · rename_i low _
      have second := readHex4_length low
      simp only [List.length_cons] at first
      rw [← h.2]
      omega

theorem readEscape_length {bs rest : Bytes} {c : Char} (h : readEscape bs = some (c, rest)) :
    rest.length ≤ bs.length := by
  unfold readEscape at h
  split at h
  · simp at h
  · split at h
    · exact Nat.le_succ_of_le (readUnicodeEscape_length h)
    · simp only [Option.map_eq_some_iff, Prod.mk.injEq] at h
      obtain ⟨_, _, _, rfl⟩ := h
      exact Nat.le_succ _

/-- The bytes of a string up to its closing quote, escapes resolved, and what follows the quote. -/
def readString : Bytes → Option (Bytes × Bytes)
  | [] => none
  | b :: bs =>
    if b = 0x22 then some ([], bs)
    else if b = 0x5C then
      match h : readEscape bs with
      | some (c, rest) =>
        have := readEscape_length h
        (readString rest).map fun (content, rest) => (String.utf8EncodeChar c ++ content, rest)
      | none => none
    else if b.toNat < 0x20 then none
    else (readString bs).map fun (content, rest) => (b :: content, rest)
termination_by bs => bs.length

theorem readString_length {bs content rest : Bytes} (h : readString bs = some (content, rest)) :
    rest.length ≤ bs.length := by
  fun_induction readString bs generalizing content with
  | case2 bs =>
    simp only [Option.some.injEq, Prod.mk.injEq] at h
    exact h.2 ▸ Nat.le_succ _
  | case3 _ _ _ _ shorter _ ih =>
    simp only [Option.map_eq_some_iff, Prod.exists, Prod.mk.injEq] at h
    obtain ⟨_, _, read, _, rfl⟩ := h
    have := ih read
    simp only [List.length_cons]
    omega
  | case6 b bs _ _ _ ih =>
    simp only [Option.map_eq_some_iff, Prod.exists, Prod.mk.injEq] at h
    obtain ⟨_, _, read, _, rfl⟩ := h
    exact Nat.le_succ_of_le (ih read)
  | case1 | case4 | case5 => simp at h

def dropWord? (word bs : Bytes) : Option Bytes :=
  if word.isPrefixOf bs then some (bs.drop word.length) else none

def isBlankByte (b : UInt8) : Bool := b = 0x20 || b = 0x0A || b = 0x0D || b = 0x09

def punctuation? (b : UInt8) : Option Token :=
  if b = 0x5B then some .openList
  else if b = 0x5D then some .closeList
  else if b = 0x7B then some .openObject
  else if b = 0x7D then some .closeObject
  else if b = 0x3A then some .colon
  else if b = 0x2C then some .comma
  else none

def readText (bs : Bytes) : Option (Token × Bytes) :=
  match readString bs with
  | none => none
  | some (content, rest) => (decodeUtf8 content).map fun cs => (.text (String.ofList cs), rest)

def readWord (b : UInt8) (bs : Bytes) : Option (Token × Bytes) :=
  if b = 0x6E then (dropWord? [0x75, 0x6C, 0x6C] bs).map (.atom .null, ·)
  else if b = 0x74 then (dropWord? [0x72, 0x75, 0x65] bs).map (.atom (.bool true), ·)
  else if b = 0x66 then (dropWord? [0x61, 0x6C, 0x73, 0x65] bs).map (.atom (.bool false), ·)
  else none

def readToken (b : UInt8) (bs : Bytes) : Option (Token × Bytes) :=
  match punctuation? b with
  | some t => some (t, bs)
  | none =>
    if b = 0x22 then readText bs
    else if b = 0x2D || JsonNumber.isDigitByte b then
      (JsonNumber.read (b :: bs)).map fun (n, rest) => (.atom (.number n), rest)
    else readWord b bs

theorem dropWord?_length {word bs rest : Bytes} (h : dropWord? word bs = some rest) :
    rest.length ≤ bs.length := by
  unfold dropWord? at h
  split at h
  · simp only [Option.some.injEq] at h
    simp [← h]
  · simp at h

theorem readWord_length {b : UInt8} {bs rest : Bytes} {t : Token}
    (h : readWord b bs = some (t, rest)) : rest.length ≤ bs.length := by
  unfold readWord at h
  repeat' split at h
  all_goals simp only [Option.map_eq_some_iff, Prod.mk.injEq, reduceCtorEq] at h
  all_goals
    obtain ⟨_, word, _, rfl⟩ := h
    exact dropWord?_length word

theorem readToken_length {b : UInt8} {bs rest : Bytes} {t : Token}
    (h : readToken b bs = some (t, rest)) : rest.length ≤ bs.length := by
  unfold readToken at h
  split at h
  · simp only [Option.some.injEq, Prod.mk.injEq] at h
    exact h.2 ▸ Nat.le_refl _
  · split at h
    · unfold readText at h
      split at h
      · simp at h
      · rename_i read
        simp only [Option.map_eq_some_iff, Prod.mk.injEq] at h
        obtain ⟨_, _, _, rfl⟩ := h
        exact readString_length read
    · split at h
      · simp only [Option.map_eq_some_iff, Prod.exists, Prod.mk.injEq] at h
        obtain ⟨_, _, read, _, rfl⟩ := h
        exact Nat.le_of_lt_succ (JsonNumber.read_length read)
      · exact readWord_length h

/-- The tokens of a text up to its end or its first flaw. -/
def tokens : Bytes → List Token
  | [] => []
  | b :: bs =>
    if isBlankByte b then tokens bs
    else
      match h : readToken b bs with
      | some (t, rest) =>
        have := readToken_length h
        t :: tokens rest
      | none => [.invalid]
termination_by bs => bs.length

end ObjectMetrics.Json
