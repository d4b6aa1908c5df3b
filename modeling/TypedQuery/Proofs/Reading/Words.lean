import TypedQuery.Proofs.Reading.Grammar

/-!
# Words of a text

A text of one line is read as parentheses and words. Words are set apart by spaces, and some
characters are words of their own. Between quotes every character belongs to the word. Where the
dash is such a character, two of them start a comment, which takes the rest of the line.
-/

namespace TypedQuery

namespace Reading

/-- How words are told apart. -/
structure Lexicon where
  quote : Option Char
  /-- The characters that are words of their own. -/
  symbols : List Char

namespace Lexicon

/-- The word that has been read so far, if there is one, in front of tokens. -/
def emit (w : List Char) (ts : List Token) : List Token :=
  if w.isEmpty then ts else .word (.ofList w) :: ts

/-- The tokens of a line behind the characters `w` of an unfinished word, inside or outside of
quotes. A quote that is never closed has no tokens. -/
def tokens (L : Lexicon) (inQuotes : Bool) (w : List Char) : List Char → Option (List Token)
  | [] => if inQuotes then none else some (emit w [])
  | c :: cs =>
      if inQuotes then L.tokens (L.quote != some c) (w ++ [c]) cs
      else if c = ' ' then (L.tokens false [] cs).map (emit w)
      else if c = '(' then (L.tokens false [] cs).map fun ts ↦ emit w (.opening :: ts)
      else if c = ')' then (L.tokens false [] cs).map fun ts ↦ emit w (.closing :: ts)
      else if c ∈ L.symbols then
        if c = '-' ∧ cs.head? = some '-' then some (emit w [])
        else (L.tokens false [] cs).map fun ts ↦ emit w (.word (.ofList [c]) :: ts)
      else L.tokens (L.quote == some c) (w ++ [c]) cs

/-- Whether a character ends a line that may have a comment. -/
def isBreak (L : Lexicon) (c : Char) : Bool := L.symbols.contains '-' && c == '\n'

/-- Whether the characters, inside or outside of quotes at their start, continue one word up to its
end. -/
def isSpelled (L : Lexicon) : Bool → List Char → Bool
  | inQuotes, [] => !inQuotes
  | true, c :: cs => !L.isBreak c && L.isSpelled (L.quote != some c) cs
  | false, c :: cs =>
      !(L.isBreak c || [' ', '(', ')'].contains c || L.symbols.contains c) &&
        L.isSpelled (L.quote == some c) cs

def isWord (L : Lexicon) (s : String) : Bool := !s.toList.isEmpty && L.isSpelled false s.toList

variable {L : Lexicon}

theorem tokens_append {inQuotes : Bool} {cs : List Char} (h : L.isSpelled inQuotes cs = true)
    (w rest : List Char) : L.tokens inQuotes w (cs ++ rest) = L.tokens false (w ++ cs) rest := by
  induction cs generalizing inQuotes w with
  | nil =>
      obtain rfl : inQuotes = false := by simpa [isSpelled] using h
      simp
  | cons c cs ih =>
      cases inQuotes with
      | true =>
          simp only [isSpelled, Bool.and_eq_true] at h
          simp only [List.cons_append, tokens, if_true, ih h.2, List.append_assoc]
          rfl
      | false =>
          simp only [isSpelled, Bool.and_eq_true, Bool.not_eq_true', Bool.or_eq_false_iff,
            List.contains_eq_mem, decide_eq_false_iff_not, List.mem_cons, List.not_mem_nil,
            or_false, not_or] at h
          obtain ⟨⟨⟨_, hspace, hopening, hclosing⟩, hsymbol⟩, hrest⟩ := h
          simp only [List.cons_append, tokens, hspace, hopening, hclosing, hsymbol, if_false,
            Bool.false_eq_true, ih hrest, List.append_assoc]
          rfl

def Delimited (rest : List Char) : Prop :=
  rest = [] ∨ ∃ cs, rest = ' ' :: cs ∨ rest = ')' :: cs

theorem tokens_of_delimited {rest : List Char} (h : Delimited rest) (w : List Char) :
    L.tokens false w rest = (L.tokens false [] rest).map (emit w) := by
  rcases h with rfl | ⟨cs, rfl | rfl⟩
  · simp [tokens, emit]
  · cases hcs : L.tokens false [] cs <;> simp [tokens, emit, hcs]
  · cases hcs : L.tokens false [] cs <;> simp [tokens, emit, hcs]

theorem tokens_word {s : String} (h : L.isWord s = true) {rest : List Char}
    (hrest : Delimited rest) :
    L.tokens false [] (s.toList ++ rest) = (L.tokens false [] rest).map (.word s :: ·) := by
  simp only [isWord, Bool.and_eq_true, Bool.not_eq_true'] at h
  have hemit : emit s.toList = (.word s :: ·) := by
    funext ts
    rw [emit, h.1, String.ofList_toList]
    rfl
  rw [tokens_append h.2, List.nil_append, tokens_of_delimited hrest, hemit]

theorem tokens_opening (rest : List Char) :
    L.tokens false [] ('(' :: rest) = (L.tokens false [] rest).map (.opening :: ·) := by
  simp [tokens, emit]

theorem tokens_closing (rest : List Char) :
    L.tokens false [] (')' :: rest) = (L.tokens false [] rest).map (.closing :: ·) := by
  simp [tokens, emit]

end Lexicon

end Reading

end TypedQuery
