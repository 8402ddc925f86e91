import ObjectMetrics.Number.Decimal
import ObjectMetrics.Proofs.Number.Numeral
import ObjectMetrics.Proofs.Text.Strip

/-! The grammar of decimal literals. Reading a text finds the decimal that the grammar gives it, and the
grammar gives one to exactly the texts that can be read. -/
namespace ObjectMetrics.Number

/-- Digits with at most one point before, among or behind them, the number that they denote without
it, and how many of them stand behind it. -/
inductive Pointed : List Char → Nat → Nat → Prop
  | whole {cs : List Char} {n : Nat} (numeral : Numeral cs n) : Pointed cs n 0
  | point {whole fraction : List Char} {n : Nat} (numeral : Numeral (whole ++ fraction) n) :
      Pointed (whole ++ '.' :: fraction) n fraction.length

/-- Decimals without an exponent, after a sign or none. -/
inductive PlainDecimal : List Char → Decimal → Prop
  | unsigned {cs : List Char} {n places : Nat} (digits : Pointed cs n places) :
      PlainDecimal cs ⟨false,n,-places⟩
  | plus {cs : List Char} {n places : Nat} (digits : Pointed cs n places) :
      PlainDecimal ('+' :: cs) ⟨false,n,-places⟩
  | minus {cs : List Char} {n places : Nat} (digits : Pointed cs n places) :
      PlainDecimal ('-' :: cs) ⟨true,n,-places⟩

/-- Decimals with or without an exponent. -/
inductive DecimalLiteral : List Char → Decimal → Prop
  | plain {cs : List Char} {d : Decimal} (decimal : PlainDecimal cs d) : DecimalLiteral cs d
  | scientific {cs es : List Char} {d : Decimal} {e : Int} {mark : Char}
      (decimal : PlainDecimal cs d) (isMark : mark = 'e' ∨ mark = 'E')
      (exponent : SignedNumeral es e) :
      DecimalLiteral (cs ++ mark :: es) { d with exponent := e + d.exponent }

theorem Numeral.isDigit {cs : List Char} {n : Nat} (numeral : Numeral cs n) :
    ∀ c ∈ cs, c.isDigit :=
  List.all_eq_true.mp (Bool.and_eq_true_iff.mp (numeral_iff.mp numeral).1).2

theorem Numeral.ne_nil {cs : List Char} {n : Nat} (numeral : Numeral cs n) : cs ≠ [] := by
  cases numeral <;> simp

theorem numeral_digitsValue {cs : List Char} (filled : cs ≠ []) (digits : ∀ c ∈ cs, c.isDigit) :
    Numeral cs (digitsValue cs) := by
  refine numeral_iff.mpr ⟨?_,rfl⟩
  rw [allDigits,Bool.and_eq_true_iff]
  exact ⟨by simpa using filled,List.all_eq_true.mpr digits⟩

theorem Pointed.chars {cs : List Char} {n places : Nat} (digits : Pointed cs n places) :
    ∀ c ∈ cs, c.isDigit ∨ c = '.' := by
  cases digits with
  | whole numeral => exact fun c member => .inl (numeral.isDigit c member)
  | point numeral =>
    intro c member
    have all := numeral.isDigit
    grind

theorem Pointed.ne_nil {cs : List Char} {n places : Nat} (digits : Pointed cs n places) :
    cs ≠ [] := by
  cases digits with
  | whole numeral => exact numeral.ne_nil
  | point => simp

theorem PlainDecimal.chars {cs : List Char} {d : Decimal} (decimal : PlainDecimal cs d) :
    ∀ c ∈ cs, c.isDigit ∨ c = '.' ∨ c = '+' ∨ c = '-' := by
  cases decimal with
  | unsigned digits =>
    intro c member
    exact (digits.chars c member).imp_right .inl
  | plus digits | minus digits =>
    rw [List.forall_mem_cons]
    exact ⟨by simp,fun c member => (digits.chars c member).imp_right .inl⟩

/-! Every decimal ends in a digit or the point. -/

theorem PlainDecimal.getLast? {cs : List Char} {d : Decimal} (decimal : PlainDecimal cs d) :
    ∀ c ∈ cs.getLast?, c.isDigit ∨ c = '.' := by
  cases decimal with
  | unsigned digits => exact fun c last => digits.chars c (List.mem_of_getLast? last)
  | plus digits | minus digits =>
    rw [List.getLast?_cons_of_ne_nil digits.ne_nil]
    exact fun c last => digits.chars c (List.mem_of_getLast? last)

theorem SignedNumeral.getLast? {cs : List Char} {n : Int} (signed : SignedNumeral cs n) :
    ∃ c ∈ cs.getLast?, c.isDigit := by
  have unsigned {cs : List Char} {n : Nat} (numeral : Numeral cs n) : ∃ c ∈ cs.getLast?, c.isDigit := by
    cases numeral with
    | digit c isDigit => exact ⟨c,rfl,isDigit⟩
    | append c isDigit => exact ⟨c,List.getLast?_concat,isDigit⟩
  cases signed with
  | plain numeral => exact unsigned numeral
  | plus numeral | minus numeral =>
    rw [List.getLast?_cons_of_ne_nil numeral.ne_nil]
    exact unsigned numeral

theorem DecimalLiteral.getLast? {cs : List Char} {d : Decimal} (literal : DecimalLiteral cs d) :
    ∀ c ∈ cs.getLast?, c.isDigit ∨ c = '.' := by
  cases literal with
  | plain decimal => exact decimal.getLast?
  | @scientific cs es _ _ mark _ _ exponent =>
    obtain ⟨digit,last,isDigit⟩ := exponent.getLast?
    have filled : es ≠ [] := by
      rintro rfl
      contradiction
    rw [List.getLast?_append,List.getLast?_cons_of_ne_nil filled,Option.mem_def.mp last]
    intro c same
    exact .inl (Option.some.inj same ▸ isDigit)

/-! Taking the digits and the point off a text. -/

namespace Decimal

def Stops (rest : List Char) : Prop := ∀ c ∈ rest.head?, ¬ c.isDigit ∧ c ≠ '.'

variable {cs es rest : List Char} {n places : Nat} {d : Decimal} {e : Int}

theorem takePoint_append (digits : Pointed cs n places) (stops : Stops rest) :
    ∃ whole fraction, takePoint (cs ++ rest) = (whole,fraction,rest) ∧
      Numeral (whole ++ fraction) n ∧ fraction.length = places := by
  have undigit : ∀ c ∈ rest.head?, ¬ c.isDigit := fun c first => (stops c first).1
  cases digits with
  | whole numeral =>
    refine ⟨cs,[],?_,by rwa [List.append_nil],rfl⟩
    rw [takePoint,Text.takeWhile_append_of_all numeral.isDigit undigit,
      Text.dropWhile_append_of_all numeral.isDigit undigit]
    split
    · exact absurd rfl (stops '.' rfl).2
    · rfl
  | @point whole fraction _ numeral =>
    obtain ⟨before,behind⟩ := List.forall_mem_append.mp numeral.isDigit
    have dot : ∀ c ∈ ('.' :: (fraction ++ rest)).head?, ¬ c.isDigit := by
      simp only [List.head?_cons,Option.mem_some_iff]
      rintro _ rfl
      decide
    refine ⟨whole,fraction,?_,numeral,rfl⟩
    rw [List.append_assoc,List.cons_append,takePoint,
      Text.takeWhile_append_of_all before dot,
      Text.dropWhile_append_of_all before dot]
    change (whole,(fraction ++ rest).takeWhile Char.isDigit,(fraction ++ rest).dropWhile Char.isDigit)
      = _
    rw [Text.takeWhile_append_of_all behind undigit,
      Text.dropWhile_append_of_all behind undigit]

theorem pointed_of_takePoint {whole fraction : List Char}
    (taken : takePoint cs = (whole,fraction,rest)) (filled : whole ++ fraction ≠ []) :
    ∃ front, cs = front ++ rest ∧
      Pointed front (digitsValue (whole ++ fraction)) fraction.length := by
  have digits (cs : List Char) : ∀ c ∈ cs.takeWhile Char.isDigit, c.isDigit :=
    List.all_eq_true.mp List.all_takeWhile
  have parts : cs = cs.takeWhile Char.isDigit ++ cs.dropWhile Char.isDigit :=
    List.takeWhile_append_dropWhile.symm
  unfold takePoint at taken
  split at taken
  · rename_i behind dropped
    obtain ⟨rfl,rfl,rfl⟩ : _ ∧ _ ∧ _ := by simpa using taken
    refine ⟨_,?_,.point (numeral_digitsValue filled ?_)⟩
    · rw [List.append_assoc,List.cons_append,List.takeWhile_append_dropWhile,← dropped]
      exact parts
    · exact List.forall_mem_append.mpr ⟨digits cs,digits behind⟩
  · obtain ⟨rfl,rfl,rfl⟩ : _ ∧ _ ∧ _ := by simpa using taken
    rw [List.append_nil] at filled ⊢
    exact ⟨_,parts,.whole (numeral_digitsValue filled (digits cs))⟩

/-! Reading a text. -/

theorem isExponent_stops (rest : List Char) {mark : Char} (isMark : mark = 'e' ∨ mark = 'E') :
    Stops (mark :: rest) := by
  intro c first
  obtain rfl := Option.some.inj first
  rcases isMark with rfl | rfl <;> decide

theorem readExponent?_eq_some_iff : readExponent? rest = some e ↔
    rest = [] ∧ e = 0 ∨
      ∃ mark es, rest = mark :: es ∧ (mark = 'e' ∨ mark = 'E') ∧ SignedNumeral es e := by
  cases rest with
  | nil => simp [readExponent?,eq_comm]
  | cons c cs => simp [readExponent?,← readInteger?_eq_some_iff]

theorem takeSign_plain (decimal : PlainDecimal cs d) (rest : List Char) :
    ∃ digits n places, takeSign (cs ++ rest) = (d.negative,digits ++ rest) ∧
      Pointed digits n places ∧ d = ⟨d.negative,n,-places⟩ := by
  cases decimal with
  | unsigned digits =>
    refine ⟨cs,_,_,?_,digits,rfl⟩
    cases cs with
    | nil => exact absurd rfl digits.ne_nil
    | cons c cs =>
      have first := digits.chars c List.mem_cons_self
      unfold takeSign
      split
      · rename_i minus
        obtain rfl := (List.cons.inj minus).1
        simp at first
      · rename_i plus
        obtain rfl := (List.cons.inj plus).1
        simp at first
      · rfl
  | plus digits => exact ⟨_,_,_,rfl,digits,rfl⟩
  | minus digits => exact ⟨_,_,_,rfl,digits,rfl⟩

theorem read?_append (decimal : PlainDecimal cs d) (stops : Stops rest) :
    read? (cs ++ rest) =
      (readExponent? rest).map fun e => { d with exponent := e + d.exponent } := by
  obtain ⟨digits,n,places,signed,pointed,same⟩ := takeSign_plain decimal rest
  obtain ⟨whole,fraction,taken,numeral,rfl⟩ := takePoint_append pointed stops
  have filled : ¬ (whole.isEmpty && fraction.isEmpty) := by
    have filled := numeral.ne_nil
    simpa using filled
  rw [read?,signed]
  dsimp only
  rw [taken]
  dsimp only
  rw [if_neg filled,(numeral_iff.mp numeral).2,same]
  rfl

theorem plain_of_takeSign {negative : Bool} {unsigned front : List Char}
    (signed : takeSign cs = (negative,unsigned)) (split : unsigned = front ++ rest)
    (digits : Pointed front n places) :
    ∃ decimal, cs = decimal ++ rest ∧ PlainDecimal decimal ⟨negative,n,-places⟩ := by
  unfold takeSign at signed
  split at signed <;> obtain ⟨rfl,rfl⟩ := Prod.mk.inj signed <;> subst split
  · exact ⟨_,rfl,.minus digits⟩
  · exact ⟨_,rfl,.plus digits⟩
  · exact ⟨_,rfl,.unsigned digits⟩

theorem read?_eq_some_iff : read? cs = some d ↔ DecimalLiteral cs d := by
  constructor
  · intro read
    unfold read? at read
    split at read
    rename_i negative unsigned signed
    split at read
    rename_i whole fraction rest taken
    split at read
    · contradiction
    rename_i filled
    obtain ⟨e,exponent,rfl⟩ := Option.map_eq_some_iff.mp read
    obtain ⟨front,parts,digits⟩ := pointed_of_takePoint taken (by simpa using filled)
    obtain ⟨decimal,rfl,plain⟩ := plain_of_takeSign signed parts digits
    rcases readExponent?_eq_some_iff.mp exponent with ⟨rfl,rfl⟩ | ⟨mark,es,rfl,isMark,signed⟩
    · rw [List.append_nil,Int.zero_sub]
      exact .plain plain
    · exact .scientific plain isMark signed
  · intro literal
    cases literal with
    | plain decimal =>
      have read := read?_append decimal (show Stops [] from nofun)
      rw [List.append_nil] at read
      rw [read,readExponent?_eq_some_iff.mpr (.inl ⟨rfl,rfl⟩),Option.map_some,Int.zero_add]
    | scientific decimal isMark exponent =>
      rw [read?_append decimal (isExponent_stops _ isMark),
        readExponent?_eq_some_iff.mpr (.inr ⟨_,_,rfl,isMark,exponent⟩)]
      rfl

end Decimal
end ObjectMetrics.Number
