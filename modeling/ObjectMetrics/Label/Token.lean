import ObjectMetrics.Text.Quoted
import ObjectMetrics.Text.Split
/-!
Tokens of selector text. Blanks separate words and mean nothing else; every other character that is
not punctuation belongs to a word, so every text has a token list.
-/
namespace ObjectMetrics.Label

inductive Token where
  | word (text : String)
  | bang
  | equals
  | doubleEquals
  | notEquals
  | greater
  | less
  | openParen
  | closeParen
  | comma
deriving DecidableEq, Repr

namespace Token

def text : Token → List Char
  | word w => w.toList
  | bang => ['!']
  | equals => ['=']
  | doubleEquals => ['=', '=']
  | notEquals => ['!', '=']
  | greater => ['>']
  | less => ['<']
  | openParen => ['(']
  | closeParen => [')']
  | comma => [',']

def display : Token → String
  | word w => Text.quote w
  | t => "'" ++ String.ofList t.text ++ "'"

end Token

def isPunctuation (c : Char) : Bool :=
  c = '!' || c = '=' || c = '(' || c = ')' || c = ',' || c = '>' || c = '<'

def isWordChar (c : Char) : Bool := !Text.isBlank c && !isPunctuation c

/-- One of two tokens, by whether an equals sign comes next; the sign belongs to the token. -/
def orEquals (plain withEquals : Token) : List Char → Token × List Char
  | '=' :: cs => (withEquals, cs)
  | cs => (plain, cs)

def punctuation? (c : Char) (cs : List Char) : Option (Token × List Char) :=
  match c with
  | '!' => some (orEquals .bang .notEquals cs)
  | '=' => some (orEquals .equals .doubleEquals cs)
  | '>' => some (.greater, cs)
  | '<' => some (.less, cs)
  | '(' => some (.openParen, cs)
  | ')' => some (.closeParen, cs)
  | ',' => some (.comma, cs)
  | _ => none

theorem orEquals_length (plain withEquals : Token) (cs : List Char) :
    (orEquals plain withEquals cs).2.length ≤ cs.length := by
  fun_cases orEquals plain withEquals cs <;> simp

theorem punctuation?_length {c : Char} {cs rest : List Char} {t : Token}
    (h : punctuation? c cs = some (t, rest)) : rest.length ≤ cs.length := by
  unfold punctuation? at h
  split at h <;> simp only [Option.some.injEq, reduceCtorEq] at h
  all_goals obtain rfl : _ = rest := congrArg Prod.snd h
  · exact orEquals_length ..
  · exact orEquals_length ..
  all_goals exact Nat.le_refl _

theorem length_dropWhile_le {α : Type} (p : α → Bool) (xs : List α) :
    (xs.dropWhile p).length ≤ xs.length :=
  (List.dropWhile_sublist p).length_le

def scan : List Char → List Token
  | [] => []
  | c :: cs =>
    if Text.isBlank c then scan cs
    else
      match h : punctuation? c cs with
      | some (t, rest) =>
        have := punctuation?_length h
        t :: scan rest
      | none =>
        have := length_dropWhile_le isWordChar cs
        .word (String.ofList (c :: cs.takeWhile isWordChar)) :: scan (cs.dropWhile isWordChar)
termination_by cs => cs.length

end ObjectMetrics.Label
