/-!
# LIKE patterns and regular expressions

In a LIKE pattern `%` stands for any text, `_` for any character, and a character behind the escape
character stands for itself. The functions here make patterns from plain text, keep the wildcards
of a given pattern, and translate between patterns and regular expressions.
-/

namespace TypedQuery.Text.Like

/-- The characters that a literal must be escaped for. -/
def needsEscape (escape c : Char) : Bool := c == escape || c == '%' || c == '_'

/-- One character as a pattern that matches only this character. -/
def literalChar (escape c : Char) : List Char :=
  if needsEscape escape c then [escape, c] else [c]

/-- A text as a pattern that matches only this text. -/
def literal (escape : Char) (cs : List Char) : List Char := cs.flatMap (literalChar escape)

/-- A pattern with its wildcards kept and its escape characters taken literally. -/
def wildcardsKept (escape : Char) (cs : List Char) : List Char :=
  cs.flatMap fun c ↦ if c = escape then [c, c] else [c]

/-- Letters that name a class or a boundary behind a backslash. -/
def classLetters : List Char := ['d', 'D', 's', 'S', 'w', 'W', 'b', 'B']

/-- Characters of a regular expression that no pattern can express. -/
def inexpressible : List Char :=
  ['[', ']', '^', '$', '*', '+', '?', '{', '}', '(', ')', '|']

/-- An unanchored regular expression as a pattern: `.*` is any text, `.` any character. -/
def ofRegexBody? (escape : Char) : List Char → Option (List Char)
  | [] => some []
  | ['\\'] => none
  | '\\' :: c :: rest =>
      if c ∈ classLetters then none else (literalChar escape c ++ ·) <$> ofRegexBody? escape rest
  | '.' :: '*' :: rest => ('%' :: ·) <$> ofRegexBody? escape rest
  | '.' :: rest => ('_' :: ·) <$> ofRegexBody? escape rest
  | c :: rest =>
      if c ∈ inexpressible then none else (literalChar escape c ++ ·) <$> ofRegexBody? escape rest

/-- Removes one anchor from either end; a dollar sign behind a backslash is no anchor. -/
def withoutAnchors (cs : List Char) : List Char :=
  let body := match cs with
    | '^' :: rest => rest
    | _ => cs
  match body.reverse with
  | '$' :: '\\' :: _ => body
  | '$' :: rest => rest.reverse
  | _ => body

/-- A regular expression as a pattern for the whole value, if a pattern can express it. -/
def ofRegex? (escape : Char) (cs : List Char) : Option (List Char) :=
  ofRegexBody? escape (withoutAnchors cs)

/-- The characters with a meaning in regular expressions. -/
def regexMeta : List Char :=
  ['\\', '^', '$', '.', '|', '?', '*', '+', '(', ')', '[', ']', '{', '}']

/-- A text as a regular expression that matches only this text. -/
def regexQuote (cs : List Char) : List Char :=
  cs.flatMap fun c ↦ if c ∈ regexMeta then ['\\', c] else [c]

/-- A pattern character that is not behind the escape character. -/
def regexChar (c : Char) : List Char :=
  if c = '%' then ['.', '*'] else if c = '_' then ['.'] else regexQuote [c]

/-- A pattern as an unanchored regular expression; a lone escape character at the end stands for
itself. -/
def toRegexBody (escape : Char) : List Char → List Char
  | [] => []
  | [c] => if c = escape then regexQuote [escape] else regexChar c
  | c :: d :: rest =>
      if c = escape then regexQuote [d] ++ toRegexBody escape rest
      else regexChar c ++ toRegexBody escape (d :: rest)

/-- A pattern as a regular expression that matches the whole value. -/
def toRegex (escape : Char) (cs : List Char) : List Char :=
  '^' :: toRegexBody escape cs ++ ['$']

end TypedQuery.Text.Like
