import TypedQuery.Text.CaseTable
import TypedQuery.Text.CharSet

/-!
# Upper and lower case

Full case mapping of a text. Only the capital sigma depends on its neighbours: it becomes the final
form at the end of a word.
-/

namespace TypedQuery.Text

def isAscii (c : Char) : Bool := c.toNat < 128

def lowerChar (c : Char) : List Char :=
  if isAscii c then [c.toLower] else mapCase lowerWords lowerRuns c

def upperChar (c : Char) : List Char :=
  if isAscii c then [c.toUpper] else mapCase upperWords upperRuns c

/-- Whether a cased character comes next once ignorable ones are passed over. -/
def casedNext (cs : List Char) : Bool :=
  match cs.dropWhile isCaseIgnorable with
  | [] => false
  | c :: _ => isCased c

/-- Lower-cases a text whose part already passed is given in reverse. -/
def lowerFrom (passed : List Char) : List Char → List Char
  | [] => []
  | c :: cs =>
      let mapped :=
        if c = 'Σ' then [if casedNext passed && !casedNext cs then 'ς' else 'σ']
        else lowerChar c
      mapped ++ lowerFrom (c :: passed) cs

def lower (s : String) : String := .ofList (lowerFrom [] s.toList)

def upper (s : String) : String := .ofList (s.toList.flatMap upperChar)

end TypedQuery.Text
