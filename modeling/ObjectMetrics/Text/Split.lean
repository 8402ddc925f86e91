/-!
Cutting text at a separator character, and trimming. Cutting everywhere gives one piece more than
there are separators, so the pieces joined by the separator are the text again. Blank are the
characters that Unicode's `White_Space` property lists, which is wider than ASCII blanks and excludes
the zero-width space.
-/
namespace ObjectMetrics.Text

/-- The characters with Unicode's `White_Space` property. -/
def isBlank (c : Char) : Bool :=
  let n := c.toNat
  (9 ≤ n && n ≤ 13) || n == 0x20 || n == 0x85 || n == 0xA0 || n == 0x1680 ||
    (0x2000 ≤ n && n ≤ 0x200A) || n == 0x2028 || n == 0x2029 || n == 0x202F ||
    n == 0x205F || n == 0x3000

def stripBoth (p : Char → Bool) (cs : List Char) : List Char :=
  ((cs.dropWhile p).reverse.dropWhile p).reverse

def trim (s : String) : String :=
  String.ofList (stripBoth isBlank s.toList)

def splitAll (sep : Char) : List Char → List (List Char)
  | [] => [[]]
  | c :: cs =>
    if c = sep then [] :: splitAll sep cs
    else
      match splitAll sep cs with
      | [] => [[c]]
      | piece :: pieces => (c :: piece) :: pieces

def splitFirst? (sep : Char) : List Char → Option (List Char × List Char)
  | [] => none
  | c :: cs =>
    if c = sep then some ([], cs)
    else (splitFirst? sep cs).map fun (before, after) => (c :: before, after)

def split (sep : Char) (s : String) : List String :=
  (splitAll sep s.toList).map String.ofList

def cut? (sep : Char) (s : String) : Option (String × String) :=
  (splitFirst? sep s.toList).map fun (before, after) => (String.ofList before, String.ofList after)

/-- What stands before the first separator; everything if there is none. -/
def before (sep : Char) (s : String) : String := ((cut? sep s).map Prod.fst).getD s

/-- What stands after the first separator; nothing if there is none. -/
def after (sep : Char) (s : String) : String := ((cut? sep s).map Prod.snd).getD ""

theorem splitAll_ne_nil (sep : Char) (cs : List Char) : splitAll sep cs ≠ [] := by
  cases cs with
  | nil => simp [splitAll]
  | cons c cs =>
    unfold splitAll
    split
    · simp
    · split <;> simp

theorem splitFirst?_eq_some {sep : Char} {cs before after : List Char}
    (h : splitFirst? sep cs = some (before, after)) : cs = before ++ sep :: after ∧ sep ∉ before := by
  induction cs generalizing before with
  | nil => simp [splitFirst?] at h
  | cons c cs ih =>
    unfold splitFirst? at h
    split at h
    · rename_i eq
      simp only [Option.some.injEq, Prod.mk.injEq] at h
      obtain ⟨rfl, rfl⟩ := h
      simp [eq]
    · rename_i ne
      simp only [Option.map_eq_some_iff, Prod.mk.injEq, Prod.exists] at h
      obtain ⟨front, back, cut, rfl, rfl⟩ := h
      obtain ⟨rfl, absent⟩ := ih cut
      simp [absent, Ne.symm ne]

theorem splitFirst?_eq_none {sep : Char} {cs : List Char} :
    splitFirst? sep cs = none ↔ sep ∉ cs := by
  induction cs with
  | nil => simp [splitFirst?]
  | cons c cs ih =>
    unfold splitFirst?
    split
    · rename_i eq; simp [eq]
    · rename_i ne; simp [ih, Ne.symm ne]

end ObjectMetrics.Text
