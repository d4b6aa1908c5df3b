/-!
# Templates

A template is the text pattern that an operator renders with. Between literal text it has argument
slots in braces: `0` for an argument as it is, `0s` for a constant as raw text, `0l` and `0u` for a
lower- or upper-cased argument, percent signs on either side for a LIKE operand, twice for a
lower-cased one, and `*` for all arguments. A doubled brace stands for itself.
-/

namespace TypedQuery

inductive LetterCase
  | lower
  | upper
deriving DecidableEq, Repr

/-- A piece of a template. -/
inductive Element
  | text (s : String)
  | arg (index : Nat)
  | inlined (index : Nat)
  | cased (index : Nat) (letterCase : LetterCase)
  | like (index : Nat) (leading trailing lower : Bool)
  | all
deriving DecidableEq, Repr

/-- What can be wrong with a template, by itself or for the arguments it is used with. -/
inductive TemplateFault
  | unmatchedBrace
  | unterminatedSlot
  | malformedSlot
  | outsideArity
  | outOfRange
deriving DecidableEq, Repr

namespace TemplateFault

def text : TemplateFault → String
  | unmatchedBrace => "unmatched '\x7d'"
  | unterminatedSlot => "unterminated '\x7b'"
  | malformedSlot => "malformed argument slot"
  | outsideArity => "argument slot outside the operator's arity"
  | outOfRange => "argument index out of range"

end TemplateFault

/-- A pattern and the elements it reads as. -/
structure Template where
  pattern : String
  elements : List Element
deriving DecidableEq, Repr

namespace Element

/-- The argument that a slot refers to. -/
def index? : Element → Option Nat
  | arg i | inlined i | cased i _ | like i .. => some i
  | text _ | all => none

/-- Slot numbers are read as words of eight bytes. -/
def indexBound : Nat := UInt64.size

def readIndex? (digits : List Char) : Option Nat :=
  let n := digits.foldl (fun n c ↦ 10 * n + (c.toNat - 48)) 0
  if digits.isEmpty || indexBound ≤ n then none else some n

/-- The percent signs in front of a slot: whether there is one, whether there are two. -/
def leadingPercent : List Char → Bool × Bool × List Char
  | '%' :: '%' :: rest => (true, true, rest)
  | '%' :: rest => (true, false, rest)
  | body => (false, false, body)

/-- A slot with the given index from what stands around its digits. -/
def ofModifiers? (index : Nat) (leading lower : Bool) (suffix : List Char) : Option Element :=
  match suffix with
  | ['%', '%'] => some (like index leading true true)
  | ['%'] => some (like index leading true lower)
  | [] => some (if leading then like index true false lower else arg index)
  | ['s'] => if leading then none else some (inlined index)
  | ['l'] => if leading then none else some (cased index .lower)
  | ['u'] => if leading then none else some (cased index .upper)
  | _ => none

/-- Reads what stands between the braces of a slot. -/
def ofSlot? (body : List Char) : Option Element :=
  if body = ['*'] then some all
  else
    let (leading, lower, rest) := leadingPercent body
    match readIndex? (rest.takeWhile Char.isDigit) with
    | none => none
    | some index => ofModifiers? index leading lower (rest.dropWhile Char.isDigit)

/-- Literal text in front of the elements that follow it, left out when it is empty. -/
def prepend (text : List Char) (elements : List Element) : List Element :=
  if text.isEmpty then elements else .text (.ofList text) :: elements

mutual

/-- Reads on behind literal text, which is kept in reverse. -/
def readText (text : List Char) : List Char → Except TemplateFault (List Element)
  | [] => .ok (prepend text.reverse [])
  | '{' :: '{' :: rest => readText ('{' :: text) rest
  | '}' :: '}' :: rest => readText ('}' :: text) rest
  | '}' :: _ => .error .unmatchedBrace
  | '{' :: rest => readSlot text [] rest
  | c :: rest => readText (c :: text) rest

/-- Reads on inside a slot, whose body so far is kept in reverse. -/
def readSlot (text body : List Char) : List Char → Except TemplateFault (List Element)
  | [] => .error .unterminatedSlot
  | '}' :: rest =>
      match ofSlot? body.reverse with
      | none => .error .malformedSlot
      | some slot => (readText [] rest).map fun es ↦ prepend text.reverse (slot :: es)
  | c :: rest => readSlot text (c :: body) rest

end

def braceDoubled (c : Char) : List Char := if c = '{' ∨ c = '}' then [c, c] else [c]

/-- The percent signs on one side of a LIKE slot. -/
def percents (present lower : Bool) : List Char :=
  if present then (if lower then ['%', '%'] else ['%']) else []

/-- The spelling of an element: braces in text are doubled. -/
def chars : Element → List Char
  | text s => s.toList.flatMap braceDoubled
  | arg i => '{' :: Nat.toDigits 10 i ++ ['}']
  | inlined i => '{' :: Nat.toDigits 10 i ++ ['s', '}']
  | cased i .lower => '{' :: Nat.toDigits 10 i ++ ['l', '}']
  | cased i .upper => '{' :: Nat.toDigits 10 i ++ ['u', '}']
  | like i leading trailing lower =>
      '{' :: percents leading lower ++ Nat.toDigits 10 i ++ percents trailing lower ++ ['}']
  | all => ['{', '*', '}']

end Element

namespace Template

/-- The template that consists of the given elements. -/
def ofElements (elements : List Element) : Template :=
  ⟨.ofList (elements.flatMap Element.chars), elements⟩

def read (pattern : String) : Except TemplateFault Template :=
  (Element.readText [] pattern.toList).map fun elements ↦ ⟨pattern, elements⟩

/-- The highest argument a template refers to. -/
def maxIndex (t : Template) : Option Nat := (t.elements.filterMap Element.index?).max?

def hasAll (t : Template) : Bool := t.elements.contains .all

end Template

end TypedQuery
