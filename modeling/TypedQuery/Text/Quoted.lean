import TypedQuery.Text.CharSet

/-!
# Quoted text in messages

A message that quotes a pattern shows it between double quotes, with a backslash before quotes and
backslashes, short forms for the common controls, and code points in braces for all else that would
not show or would join the character before it.
-/

namespace TypedQuery.Text

/-- The code point in hexadecimal digits between braces. -/
def codePoint (c : Char) : List Char :=
  ['\\', 'u', '\x7b'] ++ Nat.toDigits 16 c.toNat ++ ['\x7d']

def quotedChar (c : Char) : List Char :=
  match c with
  | '\x00' => ['\\', '0']
  | '\t' => ['\\', 't']
  | '\r' => ['\\', 'r']
  | '\n' => ['\\', 'n']
  | '\\' => ['\\', '\\']
  | '"' => ['\\', '"']
  | _ => if isExtending c || isUnprintable c then codePoint c else [c]

def quoted (s : String) : String :=
  .ofList ('"' :: s.toList.flatMap quotedChar ++ ['"'])

end TypedQuery.Text
