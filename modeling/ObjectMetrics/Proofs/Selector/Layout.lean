import Mathlib.Data.List.Chain
import ObjectMetrics.Fault
import ObjectMetrics.Proofs.Selector.Spelling

/-! The layouts of a token list: its tokens one after another, each behind a gap of blanks, which is
there at least where two tokens would run together. Scanning undoes a layout, and every text is the
layout of its tokens, so nothing but blanks is lost. -/
namespace ObjectMetrics.Label

instance : (t : Token) → Decidable t.IsProper
  | .word w => inferInstanceAs (Decidable (IsWord w))
  | .bang | .equals | .doubleEquals | .notEquals | .greater | .less | .openParen | .closeParen
  | .comma => .isTrue trivial

theorem isWord_iff {w : String} : IsWord w ↔
    w ≠ "" ∧ ∀ c ∈ w.toList, Text.isBlank c = false ∧ c ∉ "!=(),><".toList := by
  have letter (c : Char) : isWordChar c ↔ Text.isBlank c = false ∧ c ∉ "!=(),><".toList := by
    have marks : isPunctuation c = false ↔ c ∉ "!=(),><".toList := by
      simp [isPunctuation,and_assoc]
    rw [isWordChar,Bool.and_eq_true,Bool.not_eq_true',Bool.not_eq_true',marks]
  simp only [IsWord,letter]

/-- Scanning that goes by the kind of a character. A blank is passed over, a punctuation mark has to
begin a token, and any other character begins a word; a mark that begins none is unexpected. -/
def scanByKind : List Char → Except Char (List Token)
  | [] => .ok []
  | c :: cs =>
    if Text.isBlank c then scanByKind cs
    else if isPunctuation c then
      match found : punctuation? c cs with
      | some (t,rest) =>
        have := punctuation?_length found
        (scanByKind rest).map (t :: ·)
      | none => .error c
    else
      have := length_dropWhile_le isWordChar cs
      (scanByKind (cs.dropWhile isWordChar)).map
        (.word (String.ofList (c :: cs.takeWhile isWordChar)) :: ·)
termination_by cs => cs.length

theorem scanByKind_eq (cs : List Char) : scanByKind cs = .ok (scan cs) := by
  fun_induction scanByKind cs with
  | case1 => rw [scan_eq_of_spelling .done]
  | case2 c cs blank ih => rw [ih,scan_blank blank]
  | case3 c cs inked mark t rest found _ ih =>
    rw [ih,scan_punctuation (by simpa using inked) found]
    rfl
  | case4 c cs inked mark unknown =>
    rw [punctuation?_eq_none.mp unknown] at mark
    contradiction
  | case5 c cs inked plain _ ih =>
    have unmarked : punctuation? c cs = none := punctuation?_eq_none.mpr (by simpa using plain)
    rw [ih,scan_word (by simpa using inked) unmarked]
    rfl

section Gaps

/-- Whether a token right behind another one would be taken for a part of it. -/
def Token.runsInto : Token → Token → Bool
  | .word _, .word _ => true
  | .bang, t | .equals, t => t.text.head? = some '='
  | _, _ => false

theorem Token.text_ne_nil {t : Token} (proper : t.IsProper) : t.text ≠ [] := by
  cases t with
  | word w => exact fun empty => proper.1 (String.toList_eq_nil_iff.mp empty)
  | _ => exact List.cons_ne_nil _ _

theorem Token.not_isBlank {t : Token} (proper : t.IsProper) :
    ∀ c ∈ t.text, Text.isBlank c = false := by
  cases t with
  | word w => exact fun c member => ((isWord_iff.mp proper).2 c member).1
  | _ => simp [Token.text,Text.isBlank]

theorem Token.takes_blank (t : Token) {c : Char} (blank : Text.isBlank c) : t.takes c = false := by
  have unlike : c ≠ '=' := by
    rintro rfl
    contradiction
  cases t with
  | word w => simp [takes,isWordChar,blank]
  | bang | equals => exact decide_eq_false unlike
  | _ => rfl

/-- Whether a token is run into shows at its first character. -/
theorem Token.takes_eq_runsInto (t : Token) {u : Token} (proper : u.IsProper) {c : Char}
    (first : u.text.head? = some c) : t.takes c = t.runsInto u := by
  cases t with
  | word w =>
    cases u with
    | word v => exact proper.2 c (List.mem_of_head? first)
    | _ =>
      obtain rfl := Option.some.inj first
      rfl
  | bang | equals => simp [takes,runsInto,first]
  | _ => rfl

end Gaps

/-- Tokens with the blanks before each of them, and those behind the last. -/
structure Layout where
  pieces : List (List Char × Token)
  behind : List Char
  proper : ∀ piece ∈ pieces, piece.2.IsProper
  blank : ∀ piece ∈ pieces, ∀ c ∈ piece.1, Text.isBlank c
  blank_behind : ∀ c ∈ behind, Text.isBlank c
  apart : pieces.IsChain fun piece next => piece.2.runsInto next.2 → next.1 ≠ []

namespace Layout

def tokens (l : Layout) : List Token := l.pieces.map Prod.snd

def text (l : Layout) : List Char := (l.pieces.flatMap fun piece => piece.1 ++ piece.2.text) ++ l.behind

theorem exists_blank (l : Layout) {c : Char} (isBlank : Text.isBlank c) :
    ∃ wider : Layout, wider.tokens = l.tokens ∧ wider.text = c :: l.text := by
  obtain ⟨pieces,behind,proper,blank,blank_behind,apart⟩ := l
  cases pieces with
  | nil => exact ⟨⟨[],c :: behind,proper,blank,by simpa [isBlank] using blank_behind,apart⟩,rfl,rfl⟩
  | cons piece pieces =>
    have later := List.isChain_cons.mp apart
    refine ⟨⟨(c :: piece.1,piece.2) :: pieces,behind,?_,?_,blank_behind,?_⟩,rfl,?_⟩
    · simpa only [List.forall_mem_cons] using proper
    · simpa [isBlank] using blank
    · exact List.isChain_cons.mpr later
    · simp [text]

theorem exists_token (l : Layout) {t : Token} (isProper : t.IsProper)
    (ends : ∀ c ∈ l.text.head?, t.takes c = false) :
    ∃ longer : Layout, longer.tokens = t :: l.tokens ∧ longer.text = t.text ++ l.text := by
  have first : ∀ next ∈ l.pieces.head?, t.runsInto next.2 → next.1 ≠ [] := by
    rintro ⟨gap,u⟩ head joins rfl
    have there := l.proper _ (List.mem_of_head? head)
    obtain ⟨c,rest,letters⟩ := List.exists_cons_of_ne_nil (Token.text_ne_nil there)
    have foremost : c ∈ l.text.head? := by
      obtain ⟨more,parts⟩ := List.head?_eq_some_iff.mp head
      simp [text,parts,letters]
    have taken := t.takes_eq_runsInto there (c := c) (by rw [letters]; rfl)
    rw [joins,ends c foremost] at taken
    contradiction
  refine ⟨⟨([],t) :: l.pieces,l.behind,?_,?_,l.blank_behind,List.isChain_cons.mpr ⟨first,l.apart⟩⟩,
    rfl,?_⟩
  · exact List.forall_mem_cons.mpr ⟨isProper,l.proper⟩
  · exact List.forall_mem_cons.mpr ⟨by simp,l.blank⟩
  · simp [text]

theorem exists_of_spelling {ts : List Token} {cs : List Char} (spelling : Spelling ts cs) :
    ∃ l : Layout, l.tokens = ts ∧ l.text = cs := by
  induction spelling with
  | done => exact ⟨⟨[],[],by simp,by simp,by simp,.nil⟩,rfl,rfl⟩
  | blank c isBlank _ ih =>
    obtain ⟨l,rfl,rfl⟩ := ih
    exact l.exists_blank isBlank
  | token t proper ends _ ih =>
    obtain ⟨l,rfl,rfl⟩ := ih
    exact l.exists_token proper ends

end Layout

theorem Spelling.gap {ts : List Token} {gap cs : List Char} (blank : ∀ c ∈ gap, Text.isBlank c)
    (rest : Spelling ts cs) : Spelling ts (gap ++ cs) := by
  induction gap with
  | nil => exact rest
  | cons c gap ih =>
    obtain ⟨first,later⟩ := List.forall_mem_cons.mp blank
    exact .blank c first (ih later)

namespace Layout

private theorem head_pieces {t : Token} {pieces : List (List Char × Token)} {behind : List Char}
    (proper : ∀ piece ∈ pieces, piece.2.IsProper)
    (blank : ∀ piece ∈ pieces, ∀ c ∈ piece.1, Text.isBlank c)
    (blank_behind : ∀ c ∈ behind, Text.isBlank c)
    (apart : ∀ next ∈ pieces.head?, t.runsInto next.2 → next.1 ≠ []) :
    ∀ c ∈ ((pieces.flatMap fun piece => piece.1 ++ piece.2.text) ++ behind).head?,
      t.takes c = false := by
  intro c head
  cases pieces with
  | nil => exact t.takes_blank (blank_behind c (List.mem_of_head? head))
  | cons next pieces =>
    obtain ⟨gap,u⟩ := next
    cases gap with
    | cons d gap =>
      obtain rfl : d = c := by simpa using head
      exact t.takes_blank (blank _ List.mem_cons_self d List.mem_cons_self)
    | nil =>
      have isProper := proper _ List.mem_cons_self
      have free : t.runsInto u = false := by simpa using apart _ rfl
      obtain ⟨d,rest,letters⟩ := List.exists_cons_of_ne_nil (Token.text_ne_nil isProper)
      obtain rfl : d = c := by simpa [letters] using head
      have first : u.text.head? = some d := congrArg List.head? letters
      rw [t.takes_eq_runsInto isProper first,free]

theorem spelling (l : Layout) : Spelling l.tokens l.text := by
  obtain ⟨pieces,behind,proper,blank,blank_behind,apart⟩ := l
  dsimp only [tokens,text]
  induction pieces with
  | nil => simpa using Spelling.done.gap blank_behind
  | cons piece pieces ih =>
    obtain ⟨isProper,others⟩ := List.forall_mem_cons.mp proper
    obtain ⟨isBlank,gaps⟩ := List.forall_mem_cons.mp blank
    obtain ⟨first,later⟩ := List.isChain_cons.mp apart
    have rest := ih others gaps later
    have ends := head_pieces others gaps blank_behind first
    have spelled := (Spelling.token piece.2 isProper ends rest).gap isBlank
    simpa [List.append_assoc] using spelled

end Layout

theorem Spelling.inked {ts : List Token} {cs : List Char} (spelling : Spelling ts cs) :
    ts.flatMap Token.text = cs.filter fun c => !Text.isBlank c := by
  induction spelling with
  | done => rfl
  | blank c isBlank _ ih => simp [isBlank,ih]
  | token t proper _ _ ih =>
    have whole : t.text.filter (fun c => !Text.isBlank c) = t.text := by
      apply List.filter_eq_self.mpr
      intro c member
      simp [t.not_isBlank proper c member]
    rw [List.flatMap_cons,List.filter_append,whole,ih]

theorem scan_eq_iff_layout {ts : List Token} {cs : List Char} :
    scan cs = ts ↔ ∃ l : Layout, l.tokens = ts ∧ l.text = cs := by
  rw [scan_eq_iff]
  constructor
  · exact Layout.exists_of_spelling
  · rintro ⟨l,rfl,rfl⟩
    exact l.spelling

theorem forall_isProper_iff {ts : List Token} :
    (∀ t ∈ ts, t.IsProper) ↔ ∀ w, .word w ∈ ts → IsWord w := by
  constructor
  · exact fun proper w member => proper (.word w) member
  · intro words t member
    cases t with
    | word w => exact words w member
    | _ => trivial

theorem Layout.exists_of_proper {ts : List Token} (proper : ∀ t ∈ ts, t.IsProper) :
    ∃ l : Layout, l.tokens = ts := by
  have blank : Text.isBlank ' ' := by decide
  have spelling : Spelling ts (ts.flatMap fun t => t.text ++ [' ']) := by
    induction ts with
    | nil => exact .done
    | cons t ts ih =>
      obtain ⟨first,later⟩ := List.forall_mem_cons.mp proper
      rw [List.flatMap_cons,List.append_assoc]
      apply Spelling.token t first
      · intro c head
        obtain rfl := Option.some.inj head
        exact t.takes_blank blank
      · exact .blank ' ' blank (ih later)
  obtain ⟨l,tokens,_⟩ := Layout.exists_of_spelling spelling
  exact ⟨l,tokens⟩

end ObjectMetrics.Label

namespace ObjectMetrics.Selector
open Label

theorem read_of_scan {a b : String} (same : scan a.toList = scan b.toList) : read a = read b := by
  rw [read,read,requirementsOf,requirementsOf,same]

theorem parse_of_read {a b : String} (same : read a = read b) (s : Selector) :
    parse a = .ok s ↔ parse b = .ok s := by
  rw [parse,parse,same]
  cases read b <;> simp [Except.mapError]

/-- Scanning loses and invents nothing but blanks. No character of a text is unexpected, its tokens
have the characters that are no blanks, in their order, and the words among them hold no punctuation.
Any list of such tokens has layouts, which are scanned as that list; every text is a layout of its
tokens, and all layouts of the same tokens are read as one selector or refused for one flaw. -/
theorem scan_layouts :
    (∀ raw : String, scanByKind raw.toList = .ok (scan raw.toList) ∧
      (scan raw.toList).flatMap Token.text = raw.toList.filter (fun c => !Text.isBlank c) ∧
      ∀ w, .word w ∈ scan raw.toList →
        w ≠ "" ∧ ∀ c ∈ w.toList, Text.isBlank c = false ∧ c ∉ "!=(),><".toList) ∧
    (∀ ts : List Token, (∀ w, .word w ∈ ts →
        w ≠ "" ∧ ∀ c ∈ w.toList, Text.isBlank c = false ∧ c ∉ "!=(),><".toList) →
      (∃ l : Layout, l.tokens = ts) ∧ ∀ l : Layout, l.tokens = ts → scan l.text = ts) ∧
    (∀ raw : String, ∃ l : Layout, l.tokens = scan raw.toList ∧ l.text = raw.toList) ∧
    ∀ (raw : String) (l : Layout), l.tokens = scan raw.toList →
      read (String.ofList l.text) = read raw ∧
        ∀ s, parse (String.ofList l.text) = .ok s ↔ parse raw = .ok s := by
  simp only [← isWord_iff,← forall_isProper_iff]
  refine ⟨fun raw => ⟨scanByKind_eq _,(spelling_scan _).inked,fun t => proper_of_mem_scan⟩,
    fun ts proper => ⟨Layout.exists_of_proper proper,fun l tokens => ?_⟩,
    fun raw => scan_eq_iff_layout.mp rfl,fun raw l same => ?_⟩
  · exact scan_eq_iff_layout.mpr ⟨l,tokens,rfl⟩
  · have scanned : scan (String.ofList l.text).toList = scan raw.toList := by
      rw [String.toList_ofList,scan_eq_iff_layout.mpr ⟨l,same,rfl⟩]
    exact ⟨read_of_scan scanned,parse_of_read (read_of_scan scanned)⟩

theorem scan_layouts_wide_gaps :
    let l : Layout := ⟨[([],.word "b"),(['\u3000','\n'],.word "notin"),([],.openParen),
      (['\u00a0'],.comma),([],.word "a"),([],.closeParen),([],.comma),([' '],.bang),([],.word "k")],
      ['\u2003'],by decide,by simp [Text.isBlank],by simp [Text.isBlank],by decide⟩
    let signs : Layout := ⟨[([],.bang),([' '],.equals),(['\t'],.doubleEquals),([],.equals)],[],
      by decide,by simp [Text.isBlank],by simp,by decide⟩
    l.tokens = scan "b notin(,a),!k".toList ∧
    parse "b notin(,a),!k" = .ok ⟨[⟨"b",.noneOf ["","a"]⟩,⟨"k",.absent⟩]⟩ ∧
    parse (String.ofList l.text) = .ok ⟨[⟨"b",.noneOf ["","a"]⟩,⟨"k",.absent⟩]⟩ ∧
    scan signs.text = [.bang,.equals,.doubleEquals,.equals] := by
  intro l signs
  have tokens : l.tokens = scan "b notin(,a),!k".toList := by decide +kernel
  have parsed : parse "b notin(,a),!k" = .ok ⟨[⟨"b",.noneOf ["","a"]⟩,⟨"k",.absent⟩]⟩ := by
    decide +kernel
  obtain ⟨_,scanned,_,alike⟩ := scan_layouts
  exact ⟨tokens,parsed,((alike _ l tokens).2 _).mpr parsed,
    (scanned signs.tokens (by simp [signs,Layout.tokens])).2 signs rfl⟩

end ObjectMetrics.Selector
