import ObjectMetrics.Proofs.Text.Split
import ObjectMetrics.Proofs.Text.Utf8
import ObjectMetrics.Text.Percent

/-! Form-encoded parameters read back. What stands for a byte holds no separator of queries, and the
reader takes it for that byte whatever follows. -/
namespace ObjectMetrics.Text

/-- The bytes in which a form's reader looks for percent signs. -/
def formBytes (cs : List Char) : Bytes :=
  (cs.flatMap String.utf8EncodeChar).map fun b => if b = 0x2B then 0x20 else b

theorem decodeForm_eq (s : String) :
    decodeForm s = String.ofList (decodeUtf8Lossy (percentDecode (formBytes s.toList))) := rfl

@[simp] theorem formBytes_append (cs ds : List Char) :
    formBytes (cs ++ ds) = formBytes cs ++ formBytes ds := by
  simp [formBytes]

private theorem forall_byte {p : UInt8 → Prop} (all : ∀ n < 256, p (UInt8.ofNat n)) (b : UInt8) :
    p b := by
  have found := all b.toNat b.toNat_lt
  rwa [UInt8.ofNat_toNat] at found

private theorem formBytes_safe : ∀ b, isFormSafe b →
    formBytes [Char.ofNat b.toNat] = [b] ∧ b ≠ 0x25 :=
  forall_byte (by decide +kernel)

private theorem formBytes_capitalHexDigit : ∀ n < 16, ∃ h, formBytes [capitalHexDigit n] = [h] ∧
    hexDigitValue h = some n := by
  have digits : ∀ n < 16,
      formBytes [capitalHexDigit n] = [UInt8.ofNat (capitalHexDigit n).toNat] ∧
        hexDigitValue (UInt8.ofNat (capitalHexDigit n).toNat) = some n := by decide +kernel
  exact fun n lt => ⟨_,digits n lt⟩

private theorem percentDecode_cons {b : UInt8} (plain : b ≠ 0x25) (bs : Bytes) :
    percentDecode (b :: bs) = b :: percentDecode bs := by
  match bs with
  | [] => rfl
  | [_] => rfl
  | _ :: _ :: _ => rw [percentDecode,if_neg plain]

private theorem percentDecode_escape {h l : UInt8} {high low : Nat}
    (first : hexDigitValue h = some high) (second : hexDigitValue l = some low) (bs : Bytes) :
    percentDecode (0x25 :: h :: l :: bs) = UInt8.ofNat (high * 16 + low) :: percentDecode bs := by
  rw [percentDecode,if_pos rfl,first,second]

theorem percentDecode_encodeFormByte (b : UInt8) (bs : Bytes) :
    percentDecode (formBytes (encodeFormByte b) ++ bs) = b :: percentDecode bs := by
  unfold encodeFormByte
  split
  · rename_i safe
    obtain ⟨same,plain⟩ := formBytes_safe b safe
    rw [same]
    exact percentDecode_cons plain bs
  split
  · rename_i space
    subst space
    exact percentDecode_cons (by decide) bs
  · have lt : b.toNat < 256 := b.toNat_lt
    obtain ⟨h,high,first⟩ := formBytes_capitalHexDigit (b.toNat / 16) (by omega)
    obtain ⟨l,low,second⟩ := formBytes_capitalHexDigit (b.toNat % 16) (by omega)
    have bytes : formBytes ['%',capitalHexDigit (b.toNat / 16),capitalHexDigit (b.toNat % 16)] =
        [0x25,h,l] := by
      rw [← List.singleton_append,← List.singleton_append (l := [_]),formBytes_append,
        formBytes_append,high,low]
      rfl
    rw [bytes]
    refine (percentDecode_escape first second bs).trans ?_
    rw [show b.toNat / 16 * 16 + b.toNat % 16 = b.toNat by omega,UInt8.ofNat_toNat]

theorem percentDecode_formBytes (bs : Bytes) :
    percentDecode (formBytes (bs.flatMap encodeFormByte)) = bs := by
  induction bs with
  | nil => rfl
  | cons b bs ih => rw [List.flatMap_cons,formBytes_append,percentDecode_encodeFormByte,ih]

theorem decodeForm_encodeForm (s : String) : decodeForm (encodeForm s) = s := by
  rw [decodeForm_eq,encodeForm,String.toList_ofList,percentDecode_formBytes,encodeUtf8,
    decodeUtf8Lossy_encode,String.ofList_toList]

theorem forall_encodeForm {p : Char → Bool}
    (all : ∀ n < 256, (encodeFormByte (UInt8.ofNat n)).all p) (s : String) :
    ∀ c ∈ (encodeForm s).toList, p c := by
  intro c member
  rw [encodeForm,String.toList_ofList] at member
  obtain ⟨b,_,inside⟩ := List.mem_flatMap.mp member
  exact List.all_eq_true.mp (forall_byte (p := fun b => (encodeFormByte b).all p) all b) c inside

theorem encodeForm_plain (s : String) : ∀ c ∈ (encodeForm s).toList, c ≠ '&' ∧ c ≠ '=' := by
  have plain : ∀ c ∈ (encodeForm s).toList, decide (c ≠ '&' ∧ c ≠ '=') :=
    forall_encodeForm (by decide +kernel) s
  simpa only [decide_eq_true_eq] using plain

theorem queryParameters_single {name : String} (plain : encodeForm name = name) (value : String) :
    queryParameters ("&" ++ name ++ "=" ++ encodeForm value) = [(name,value)] := by
  have free : ∀ c ∈ name.toList, c ≠ '&' ∧ c ≠ '=' := plain ▸ encodeForm_plain name
  have letters : (name ++ "=" ++ encodeForm value).toList =
      name.toList ++ '=' :: (encodeForm value).toList := by simp
  have whole : '&' ∉ (name ++ "=" ++ encodeForm value).toList := by
    rw [letters,List.mem_append,List.mem_cons]
    rintro (named | sign | valued)
    · exact (free _ named).1 rfl
    · exact absurd sign (by decide)
    · exact (encodeForm_plain value _ valued).1 rfl
  have pieces : split '&' ("&" ++ name ++ "=" ++ encodeForm value) =
      ["",name ++ "=" ++ encodeForm value] := by
    have joined : ("&" ++ name ++ "=" ++ encodeForm value).toList =
        '&' :: (name ++ "=" ++ encodeForm value).toList := by simp
    rw [split,joined,splitAll,if_pos rfl,splitAll_of_not_mem whole]
    simp only [List.map_cons,List.map_nil,String.ofList_nil,String.ofList_toList]
  have cut : cut? '=' (name ++ "=" ++ encodeForm value) = some (name,encodeForm value) :=
    cut?_eq_some_iff.mpr ⟨letters,fun member => (free _ member).2 rfl⟩
  have decoded : decodeForm name = name := by
    simpa only [plain] using decodeForm_encodeForm name
  have nonempty : name ++ "=" ++ encodeForm value ≠ "" := by
    intro empty
    simp [empty] at letters
  rw [queryParameters,pieces]
  simp [nonempty,queryParameter,cut,decoded,decodeForm_encodeForm]

end ObjectMetrics.Text
