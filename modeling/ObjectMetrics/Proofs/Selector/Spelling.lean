import ObjectMetrics.Label.Token
import ObjectMetrics.Proofs.Text.Strip

/-! The texts of a token list: the texts of its tokens one after another, with blanks between them
wherever one wants and where two tokens would run together. Scanning finds the one token list that a
text spells. -/
namespace ObjectMetrics.Label

def IsWord (w : String) : Prop := w ≠ "" ∧ ∀ c ∈ w.toList, isWordChar c

instance (w : String) : Decidable (IsWord w) :=
  decidable_of_iff (w ≠ "" ∧ w.toList.all isWordChar = true) (by simp [IsWord])

/-- A token that some text has. -/
def Token.IsProper : Token → Prop
  | .word w => IsWord w
  | _ => True

/-- Whether a character right after a token belongs to it. -/
def Token.takes : Token → Char → Bool
  | .word _, c => isWordChar c
  | .bang, c => c = '='
  | .equals, c => c = '='
  | _, _ => false

inductive Spelling : List Token → List Char → Prop
  | done : Spelling [] []
  | blank {ts : List Token} {cs : List Char} (c : Char) (isBlank : Text.isBlank c)
      (rest : Spelling ts cs) : Spelling ts (c :: cs)
  | token {ts : List Token} {cs : List Char} (t : Token) (proper : t.IsProper)
      (ends : ∀ c ∈ cs.head?, t.takes c = false) (rest : Spelling ts cs) :
      Spelling (t :: ts) (t.text ++ cs)

theorem scan_blank {c : Char} {cs : List Char} (blank : Text.isBlank c) :
    scan (c :: cs) = scan cs := by
  rw [scan.eq_def (c :: cs)]
  exact if_pos blank

theorem scan_punctuation {c : Char} {cs rest : List Char} {t : Token}
    (inked : Text.isBlank c = false) (found : punctuation? c cs = some (t,rest)) :
    scan (c :: cs) = t :: scan rest := by
  rw [scan.eq_def (c :: cs)]
  simp only [inked,Bool.false_eq_true,if_false]
  split
  · rename_i other tail eq
    obtain ⟨rfl,rfl⟩ : other = t ∧ tail = rest := by simpa [found] using eq.symm
    rfl
  · rename_i none
    simp [found] at none

theorem scan_word {c : Char} {cs : List Char} (inked : Text.isBlank c = false)
    (plain : punctuation? c cs = none) :
    scan (c :: cs) =
      .word (String.ofList (c :: cs.takeWhile isWordChar)) :: scan (cs.dropWhile isWordChar) := by
  rw [scan.eq_def (c :: cs)]
  simp only [inked,Bool.false_eq_true,if_false]
  split
  · rename_i some
    simp [plain] at some
  · rfl

theorem punctuation?_eq_none {c : Char} {cs : List Char} :
    punctuation? c cs = none ↔ isPunctuation c = false := by
  unfold punctuation? isPunctuation
  split <;> simp_all

private theorem orEquals_spelled (plain withEquals : Token) (cs : List Char) :
    ((orEquals plain withEquals cs).1 = withEquals ∧ cs = '=' :: (orEquals plain withEquals cs).2) ∨
      (orEquals plain withEquals cs = (plain,cs) ∧ ∀ c ∈ cs.head?, c ≠ '=') := by
  fun_cases orEquals plain withEquals cs with
  | case1 cs => exact .inl ⟨rfl,rfl⟩
  | case2 cs other =>
    refine .inr ⟨rfl,?_⟩
    cases cs with
    | nil => simp
    | cons c cs =>
      intro d member same
      obtain rfl : c = d := by simpa using member
      exact other cs (same ▸ rfl)

private theorem punctuation?_spelled {c : Char} {cs rest : List Char} {t : Token}
    (found : punctuation? c cs = some (t,rest)) :
    t.IsProper ∧ c :: cs = t.text ++ rest ∧ ∀ d ∈ rest.head?, t.takes d = false := by
  unfold punctuation? at found
  split at found <;> simp only [Option.some.injEq,reduceCtorEq] at found
  case h_1 =>
    obtain ⟨kind,tail⟩ | ⟨kind,apart⟩ := orEquals_spelled .bang .notEquals cs
    · rw [found] at kind tail
      subst kind
      exact ⟨trivial,by rw [tail]; rfl,fun _ _ => rfl⟩
    · obtain ⟨rfl,rfl⟩ := Prod.mk.inj (found.symm.trans kind)
      exact ⟨trivial,rfl,fun d member => decide_eq_false (apart d member)⟩
  case h_2 =>
    obtain ⟨kind,tail⟩ | ⟨kind,apart⟩ := orEquals_spelled .equals .doubleEquals cs
    · rw [found] at kind tail
      subst kind
      exact ⟨trivial,by rw [tail]; rfl,fun _ _ => rfl⟩
    · obtain ⟨rfl,rfl⟩ := Prod.mk.inj (found.symm.trans kind)
      exact ⟨trivial,rfl,fun d member => decide_eq_false (apart d member)⟩
  all_goals
    obtain ⟨rfl,rfl⟩ := Prod.mk.inj found
    exact ⟨trivial,rfl,fun _ _ => rfl⟩

private theorem head?_dropWhile_not {α : Type} (p : α → Bool) (xs : List α) :
    ∀ x ∈ (xs.dropWhile p).head?, p x = false := by
  induction xs with
  | nil => simp
  | cons y ys ih =>
    rw [List.dropWhile_cons]
    split
    · exact ih
    · rename_i stop
      simpa using stop

theorem spelling_scan (cs : List Char) : Spelling (scan cs) cs := by
  fun_induction scan cs with
  | case1 => exact .done
  | case2 c cs blank ih => exact .blank c blank ih
  | case3 c cs inked t rest found _ ih =>
    obtain ⟨proper,same,ends⟩ := punctuation?_spelled found
    rw [same]
    exact .token t proper ends ih
  | case4 c cs inked plain _ ih =>
    have first : isWordChar c := by
      simp [isWordChar,inked,punctuation?_eq_none.mp plain]
    have letters : ∀ d ∈ c :: cs.takeWhile isWordChar, isWordChar d := by
      intro d member
      rcases List.mem_cons.mp member with rfl | later
      · exact first
      · exact List.all_eq_true.mp List.all_takeWhile d later
    have whole : c :: cs = (Token.word (String.ofList (c :: cs.takeWhile isWordChar))).text ++
        cs.dropWhile isWordChar := by
      simp [Token.text]
    rw [whole]
    exact .token _ ⟨by simp,by simpa using letters⟩ (head?_dropWhile_not _ _) ih

private theorem scan_letters {c : Char} {letters cs : List Char}
    (inside : ∀ d ∈ c :: letters, isWordChar d) (stops : ∀ d ∈ cs.head?, isWordChar d = false) :
    scan (c :: letters ++ cs) = .word (String.ofList (c :: letters)) :: scan cs := by
  have first : isWordChar c := inside c List.mem_cons_self
  have others : ∀ d ∈ letters, isWordChar d := fun d member => inside d (.tail _ member)
  obtain ⟨inked,plain⟩ : Text.isBlank c = false ∧ isPunctuation c = false := by
    simpa [isWordChar] using first
  have apart : ∀ d ∈ cs.head?, ¬ isWordChar d := by simpa only [Bool.not_eq_true] using stops
  rw [List.cons_append,scan_word inked (punctuation?_eq_none.mpr plain),
    Text.takeWhile_append_of_all others apart,Text.dropWhile_append_of_all others apart]

/-- The text of a token that is not run into is scanned as that token. -/
private theorem scan_text_append {t : Token} {cs : List Char} (proper : t.IsProper)
    (ends : ∀ c ∈ cs.head?, t.takes c = false) : scan (t.text ++ cs) = t :: scan cs := by
  have apart (plain withEquals : Token) (stops : ∀ c ∈ cs.head?, c ≠ '=') :
      orEquals plain withEquals cs = (plain,cs) := by
    obtain ⟨_,tail⟩ | ⟨kind,_⟩ := orEquals_spelled plain withEquals cs
    · rw [tail] at stops
      exact absurd rfl (stops '=' rfl)
    · exact kind
  cases t with
  | word w =>
    obtain ⟨nonempty,inside⟩ := proper
    cases spelled : w.toList with
    | nil => exact absurd (String.toList_eq_nil_iff.mp spelled) nonempty
    | cons c letters =>
      have whole : String.ofList (c :: letters) = w := by rw [← spelled,String.ofList_toList]
      rw [Token.text,spelled,scan_letters (spelled ▸ inside) ends,whole]
  | bang =>
    exact scan_punctuation (by decide)
      (congrArg some (apart _ _ fun c member => of_decide_eq_false (ends c member)))
  | equals =>
    exact scan_punctuation (by decide)
      (congrArg some (apart _ _ fun c member => of_decide_eq_false (ends c member)))
  | _ => exact scan_punctuation (by decide) rfl

theorem scan_eq_of_spelling {ts : List Token} {cs : List Char} (spelling : Spelling ts cs) :
    scan cs = ts := by
  induction spelling with
  | done => unfold scan; rfl
  | blank c blank _ ih => rw [scan_blank blank,ih]
  | token t proper ends _ ih => rw [scan_text_append proper ends,ih]

theorem scan_eq_iff {ts : List Token} {cs : List Char} : scan cs = ts ↔ Spelling ts cs := by
  constructor
  · rintro rfl
    exact spelling_scan cs
  · exact scan_eq_of_spelling

theorem Spelling.proper {ts : List Token} {cs : List Char} (spelling : Spelling ts cs) :
    ∀ t ∈ ts, t.IsProper := by
  induction spelling with
  | done => simp
  | blank _ _ _ ih => exact ih
  | token t proper _ _ ih =>
    intro u member
    rcases List.mem_cons.mp member with rfl | later
    · exact proper
    · exact ih u later

theorem proper_of_mem_scan {cs : List Char} {t : Token} (member : t ∈ scan cs) : t.IsProper :=
  (spelling_scan cs).proper t member

theorem Spelling.append {ts us : List Token} {cs ds : List Char}
    (apart : ∀ t ∈ ts, ∀ d ∈ ds.head?, t.takes d = false) (front : Spelling ts cs)
    (back : Spelling us ds) : Spelling (ts ++ us) (cs ++ ds) := by
  induction front with
  | done => exact back
  | blank c isBlank _ ih => exact .blank c isBlank (ih apart)
  | @token ts cs t proper ends rest ih =>
    rw [List.cons_append,List.append_assoc]
    apply Spelling.token t proper
    · cases cs with
      | nil => exact apart t List.mem_cons_self
      | cons c cs => exact ends
    · exact ih fun u member => apart u (.tail _ member)

theorem Spelling.blank_of_nil {cs : List Char} (spelling : Spelling [] cs) :
    ∀ c ∈ cs, Text.isBlank c := by
  generalize none : ([] : List Token) = ts at spelling
  induction spelling with
  | done => simp
  | blank c isBlank _ ih => exact List.forall_mem_cons.mpr ⟨isBlank,ih none⟩
  | token => contradiction

theorem Spelling.parts_of_word {w : String} {cs : List Char} (spelling : Spelling [.word w] cs) :
    ∃ front back, cs = front ++ w.toList ++ back ∧ (∀ c ∈ front, Text.isBlank c) ∧
      ∀ c ∈ back, Text.isBlank c := by
  generalize one : [Token.word w] = ts at spelling
  induction spelling with
  | done => contradiction
  | blank c isBlank _ ih =>
    obtain ⟨front,back,rfl,before,behind⟩ := ih one
    exact ⟨c :: front,back,rfl,List.forall_mem_cons.mpr ⟨isBlank,before⟩,behind⟩
  | token t _ _ rest =>
    obtain ⟨rfl,rfl⟩ := List.cons.inj one
    exact ⟨[],_,rfl,by simp,rest.blank_of_nil⟩

theorem trim_of_scan {s w : String} (read : scan s.toList = [.word w]) : Text.trim s = w := by
  have spelling := scan_eq_iff.mp read
  have word : IsWord w := spelling.proper _ List.mem_cons_self
  obtain ⟨front,back,parts,before,behind⟩ := spelling.parts_of_word
  have inked : ∀ c ∈ w.toList, ¬ Text.isBlank c := by
    intro c member
    have letter := word.2 c member
    simp only [isWordChar,Bool.and_eq_true,Bool.not_eq_true'] at letter
    simp [letter.1]
  have stripped : Text.stripBoth Text.isBlank (front ++ w.toList ++ back) = w.toList :=
    Text.stripBoth_padded before behind (fun c first => inked c (List.mem_of_head? first))
      fun c last => inked c (List.mem_of_getLast? last)
  rw [Text.trim,parts,stripped,String.ofList_toList]

theorem scan_of_isWord {w : String} (word : IsWord w) : scan w.toList = [.word w] := by
  have spelling := Spelling.token (.word w) word (by simp) Spelling.done
  rw [List.append_nil] at spelling
  exact scan_eq_of_spelling spelling

end ObjectMetrics.Label
