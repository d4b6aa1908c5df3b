import Mathlib.Data.List.Infix
import TypedQuery.Operator
import TypedQuery.Text.Like

/-!
# What LIKE patterns match

A pattern is read with its escape character into tokens, and tokens are compared with a text from
the left to the right. SQL lets the escape character stand in front of a wildcard and of itself
only; any other pattern is refused. Patterns made from plain text are always read, and every token
that comes from the text itself matches just its own character.
-/

namespace TypedQuery.Text.Like

inductive Token
  | literal (c : Char)
  | anyChar
  | anyText
deriving DecidableEq, Repr

/-- The meaning of a character that is not behind the escape character. -/
def wildcard (c : Char) : Token :=
  if c = '%' then .anyText else if c = '_' then .anyChar else .literal c

/-- The tokens of a pattern, if SQL accepts the pattern. -/
def read? (escape : Char) : List Char → Option (List Token)
  | [] => some []
  | [c] => if c = escape then none else some [wildcard c]
  | c :: d :: rest =>
      if c = escape then
        if needsEscape escape d then (.literal d :: ·) <$> read? escape rest else none
      else (wildcard c :: ·) <$> read? escape (d :: rest)

/-- Whether tokens match a whole text. -/
def accepts : List Token → List Char → Bool
  | [], cs => cs.isEmpty
  | .literal a :: ts, c :: cs => a == c && accepts ts cs
  | .anyChar :: ts, _ :: cs => accepts ts cs
  | .anyText :: ts, cs => cs.tails.any (accepts ts)
  | _, [] => false

/-- Whether a text matches a pattern, `like` with its escape clause. -/
def isLike (escape : Char) (pattern text : String) : Bool :=
  (read? escape pattern.toList).any (accepts · text.toList)

variable {escape : Char}

/-! ## Reading -/

theorem read?_escaped {d : Char} (hd : needsEscape escape d = true) (rest : List Char) :
    read? escape (escape :: d :: rest) = (.literal d :: ·) <$> read? escape rest := by
  simp [read?, hd]

theorem read?_cons {c : Char} (hc : c ≠ escape) (rest : List Char) :
    read? escape (c :: rest) = (wildcard c :: ·) <$> read? escape rest := by
  cases rest <;> simp [read?, hc]

/-- A character made literal is read as itself. -/
theorem read?_literalChar (c : Char) (rest : List Char) :
    read? escape (literalChar escape c ++ rest) = (.literal c :: ·) <$> read? escape rest := by
  unfold literalChar
  split
  · rename_i hc
    exact read?_escaped hc rest
  · rename_i hc
    simp only [needsEscape, Bool.or_eq_true, beq_iff_eq, not_or] at hc
    obtain ⟨⟨hescape, hpercent⟩, hunderscore⟩ := hc
    rw [List.singleton_append, read?_cons hescape]
    simp [wildcard, hpercent, hunderscore]

theorem read?_literal (cs rest : List Char) :
    read? escape (literal escape cs ++ rest) =
      (cs.map Token.literal ++ ·) <$> read? escape rest := by
  induction cs with
  | nil => simp [literal]
  | cons c cs ih =>
      have hcons : literal escape (c :: cs) = literalChar escape c ++ literal escape cs := rfl
      rw [hcons, List.append_assoc, read?_literalChar, ih, Option.map_eq_map, Option.map_eq_map,
        Option.map_map]
      rfl

/-- In a pattern whose escape characters are doubled, all other characters keep their meaning. -/
theorem read?_wildcardsKept (hpercent : escape ≠ '%') (hunderscore : escape ≠ '_')
    (cs : List Char) : read? escape (wildcardsKept escape cs) = some (cs.map wildcard) := by
  induction cs with
  | nil => rfl
  | cons c cs ih =>
      by_cases hc : c = escape
      · subst hc
        have hcons : wildcardsKept c (c :: cs) = c :: c :: wildcardsKept c cs := by
          simp [wildcardsKept]
        have hwildcard : wildcard c = .literal c := by simp [wildcard, hpercent, hunderscore]
        rw [hcons, read?_escaped (by simp [needsEscape]), ih, List.map_cons, hwildcard]
        rfl
      · have hcons : wildcardsKept escape (c :: cs) = c :: wildcardsKept escape cs := by
          simp [wildcardsKept, hc]
        rw [hcons, read?_cons hc, ih]
        rfl

/-! ## Matching -/

variable {ts : List Token} {cs text : List Char}

theorem accepts_literal_append :
    accepts (text.map Token.literal ++ ts) cs = true ↔
      ∃ rest, cs = text ++ rest ∧ accepts ts rest = true := by
  induction text generalizing cs with
  | nil => simp
  | cons c text ih =>
      cases cs with
      | nil => simp [accepts]
      | cons d cs =>
          simp only [List.map_cons, List.cons_append, accepts, Bool.and_eq_true, beq_iff_eq, ih,
            List.cons.injEq]
          constructor
          · rintro ⟨rfl, rest, rfl, hrest⟩
            exact ⟨rest, ⟨rfl, rfl⟩, hrest⟩
          · rintro ⟨rest, ⟨rfl, rfl⟩, hrest⟩
            exact ⟨rfl, rest, rfl, hrest⟩

theorem accepts_anyText :
    accepts (.anyText :: ts) cs = true ↔ ∃ rest, rest <:+ cs ∧ accepts ts rest = true := by
  simp [accepts, List.any_eq_true]

theorem accepts_nil : accepts [] cs = true ↔ cs = [] := by
  simp [accepts]

/-- Any text stands at the end of a pattern for everything. -/
theorem accepts_anyText_nil : accepts [.anyText] cs = true :=
  accepts_anyText.mpr ⟨[], List.nil_suffix, rfl⟩

theorem accepts_start :
    accepts (text.map Token.literal ++ [.anyText]) cs = true ↔ text <+: cs := by
  rw [accepts_literal_append]
  constructor
  · rintro ⟨rest, rfl, _⟩
    exact List.prefix_append text rest
  · rintro ⟨rest, rfl⟩
    exact ⟨rest, rfl, accepts_anyText_nil⟩

theorem accepts_end :
    accepts (.anyText :: text.map Token.literal) cs = true ↔ text <:+ cs := by
  have hwhole : ∀ rest, accepts (text.map Token.literal) rest = true ↔ rest = text := by
    intro rest
    rw [← List.append_nil (text.map Token.literal), accepts_literal_append]
    simp [accepts_nil]
  simp only [accepts_anyText, hwhole, exists_eq_right]

theorem accepts_part :
    accepts (.anyText :: (text.map Token.literal ++ [.anyText])) cs = true ↔ text <:+: cs := by
  rw [accepts_anyText, List.infix_iff_prefix_suffix]
  simp only [accepts_start, and_comm]

end TypedQuery.Text.Like

namespace TypedQuery

open Text.Like

/-! ## Tests of texts -/

/-- The tests of a text against a constant that are written with LIKE. -/
inductive TextTest
  | startsWith
  | endsWith
  | contains
  | like

namespace TextTest

def op : TextTest → Op
  | startsWith => .startsWith
  | endsWith => .endsWith
  | contains => .stringContains
  | like => .like

/-- The pattern for a constant. -/
def pattern (test : TextTest) (escape : Char) (constant : String) : String :=
  let literal := literal escape constant.toList
  .ofList (match test with
    | startsWith => literal ++ ['%']
    | endsWith => '%' :: literal
    | contains => '%' :: (literal ++ ['%'])
    | like => wildcardsKept escape constant.toList)

/-- What a test asks of a text: a beginning, an end or a part of it, or a match with a constant
whose only special characters are the two wildcards. -/
def Asks (test : TextTest) (constant text : String) : Prop :=
  match test with
  | startsWith => constant.toList <+: text.toList
  | endsWith => constant.toList <:+ text.toList
  | contains => constant.toList <:+: text.toList
  | like => accepts (constant.toList.map wildcard) text.toList = true

/-- With an escape character that is no wildcard, the pattern of a test matches what it asks for. -/
theorem isLike_pattern (test : TextTest) {escape : Char} (hpercent : escape ≠ '%')
    (hunderscore : escape ≠ '_') (constant text : String) :
    isLike escape (test.pattern escape constant) text = true ↔ test.Asks constant text := by
  have hread : ∀ rest, read? escape ('%' :: rest) = (.anyText :: ·) <$> read? escape rest := by
    intro rest
    rw [read?_cons hpercent.symm]
    rfl
  have hnil : read? escape [] = some [] := rfl
  have hliteral : ∀ rest, read? escape (literal escape constant.toList ++ rest) = _ :=
    read?_literal constant.toList
  cases test with
  | startsWith => simp [isLike, pattern, Asks, hread, hliteral, hnil, accepts_start]
  | endsWith =>
      have hwhole := hliteral []
      rw [List.append_nil] at hwhole
      simp [isLike, pattern, Asks, hread, hwhole, hnil, accepts_end]
  | contains => simp [isLike, pattern, Asks, hread, hliteral, hnil, accepts_part]
  | like => simp [isLike, pattern, Asks, read?_wildcardsKept hpercent hunderscore]

end TextTest

end TypedQuery
