import TypedQuery.Json
import TypedQuery.Number.Reading

/-!
# Reading JSON texts

Every reader takes the characters that are left and gives back what it read with the characters
behind it. A value within a value begins behind a bracket or a separator, so the length of the text
bounds the calls that nest.
-/

namespace TypedQuery.Json

def isBlank (c : Char) : Bool := c == ' ' || c == '\n' || c == '\t' || c == '\r'

def skipBlanks (cs : List Char) : List Char := cs.dropWhile isBlank

/-- What follows a given beginning. -/
def afterWord : List Char → List Char → Option (List Char)
  | [], cs => some cs
  | w :: ws, c :: cs => if w = c then afterWord ws cs else none
  | _ :: _, [] => none

/-- The character that two halves of a surrogate pair stand for. -/
def ofSurrogates (high low : Nat) : Char :=
  .ofNat (0x10000 + (high - 0xD800) * 0x400 + (low - 0xDC00))

/-- A string behind its opening quote. The first half of a surrogate pair waits in `high` for the
second one; the characters read so far are kept in reverse. -/
def readString (high : Nat) (read : List Char) : List Char → Option (String × List Char)
  | '"' :: cs => some (.ofList read.reverse, cs)
  | '\\' :: 'u' :: a :: b :: c :: d :: cs =>
      match Number.hexValue? [a, b, c, d] with
      | none => none
      | some n =>
          if 0xD800 ≤ n ∧ n < 0xDC00 then readString n read cs
          else if 0xDC00 ≤ n ∧ n < 0xE000 then readString 0 (ofSurrogates high n :: read) cs
          else readString 0 (.ofNat n :: read) cs
  | '\\' :: 'b' :: cs => readString 0 ('\x08' :: read) cs
  | '\\' :: 'f' :: cs => readString 0 ('\x0c' :: read) cs
  | '\\' :: 'n' :: cs => readString 0 ('\n' :: read) cs
  | '\\' :: 'r' :: cs => readString 0 ('\r' :: read) cs
  | '\\' :: 't' :: cs => readString 0 ('\t' :: read) cs
  | '\\' :: c :: cs => readString 0 (c :: read) cs
  | c :: cs => readString 0 (c :: read) cs
  | [] => none

/-- The digits at the beginning. -/
def readDigits (cs : List Char) : List Char × List Char := cs.span Char.isDigit

def readFraction : List Char → Option (List Char) × List Char
  | '.' :: cs => let (ds, rest) := readDigits cs; (some ds, rest)
  | cs => (none, cs)

def readExponent : List Char → Option Int × List Char
  | c :: cs =>
      if c = 'e' ∨ c = 'E' then
        let (negative, ds) := match cs with
          | '-' :: ds => (true, ds)
          | '+' :: ds => (false, ds)
          | ds => (false, ds)
        let (ds, rest) := readDigits ds
        let n : Int := Number.decimalValue ds
        (some (if negative then -n else n), rest)
      else (none, c :: cs)
  | [] => (none, [])

/-- A number by its parts. Integers of eight bytes stay whole, all others are floating-point. -/
def ofParts (negative : Bool) (whole : List Char) (fraction : Option (List Char))
    (exponent : Option Int) : Option Json :=
  let n := Number.decimalValue whole
  let places := fraction.getD []
  let float := (Number.Binary64.ofDecimal? negative (whole ++ places)
    (exponent.getD 0 - places.length)).map fun x ↦ number (.float x)
  if fraction.isSome || exponent.isSome then float
  else if negative then
    if 0 < n ∧ n ≤ UInt64.size / 2 then some (ofInt (-n)) else float
  else if n < UInt64.size then some (ofInt n) else float

def readNumber (cs : List Char) : Option (Json × List Char) :=
  let (negative, cs) := match cs with
    | '-' :: rest => (true, rest)
    | _ => (false, cs)
  let (whole, cs) := readDigits cs
  let (fraction, cs) := readFraction cs
  let (exponent, cs) := readExponent cs
  if whole.isEmpty then none
  else (ofParts negative whole fraction exponent).map fun j ↦ (j, cs)

/-- The name of a member and the colon behind it. -/
def readKey (cs : List Char) : Option (String × List Char) := do
  match skipBlanks cs with
  | '"' :: rest =>
      let (key, rest) ← readString 0 [] rest
      match skipBlanks rest with
      | ':' :: rest => return (key, rest)
      | _ => none
  | _ => none

mutual

/-- A value, blanks before it skipped; the first argument bounds the nesting of calls. -/
def readValue : Nat → List Char → Option (Json × List Char)
  | 0, _ => none
  | n + 1, cs =>
      match skipBlanks cs with
      | '"' :: rest => (readString 0 [] rest).map fun (s, rest) ↦ (string s, rest)
      | '[' :: rest => readItems n [] rest
      | '\x7b' :: rest => readMembers n [] rest
      | 't' :: rest => (afterWord ['r', 'u', 'e'] rest).map fun rest ↦ (bool true, rest)
      | 'f' :: rest => (afterWord ['a', 'l', 's', 'e'] rest).map fun rest ↦ (bool false, rest)
      | 'n' :: rest => (afterWord ['u', 'l', 'l'] rest).map fun rest ↦ (null, rest)
      | rest => readNumber rest

/-- The items up to the closing bracket, those already read in reverse. -/
def readItems : Nat → List Json → List Char → Option (Json × List Char)
  | 0, _, _ => none
  | n + 1, read, cs => do
      match skipBlanks cs, read with
      | ']' :: rest, _ => return (array read.reverse, rest)
      | ',' :: rest, _ :: _ =>
          let (j, rest) ← readValue n rest
          readItems n (j :: read) rest
      | rest, [] =>
          let (j, rest) ← readValue n rest
          readItems n [j] rest
      | _, _ :: _ => none

/-- The members up to the closing brace. -/
def readMembers : Nat → List (String × Json) → List Char → Option (Json × List Char)
  | 0, _, _ => none
  | n + 1, read, cs => do
      match skipBlanks cs, read with
      | '\x7d' :: rest, _ => return (object read, rest)
      | ',' :: rest, _ :: _ =>
          let (key, rest) ← readKey rest
          let (j, rest) ← readValue n rest
          readMembers n (insertMember key j read) rest
      | rest, [] =>
          let (key, rest) ← readKey rest
          let (j, rest) ← readValue n rest
          readMembers n [(key, j)] rest
      | _, _ :: _ => none

end

/-- The tree of a whole text, none when the text is not JSON. -/
def parse? (s : String) : Option Json := do
  let cs := s.toList
  let (j, rest) ← readValue (cs.length + 1) cs
  if (skipBlanks rest).isEmpty then return j else none

end TypedQuery.Json
