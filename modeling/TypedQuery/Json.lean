import TypedQuery.Number.Notation

/-!
# JSON trees

Objects keep the order of their members and hold each key once. Two trees are equivalent when they
differ only in that order; the compact text tells also the order apart.
-/

namespace TypedQuery

/-- A JSON number: whole numbers and floating-point numbers are never equal. -/
inductive JsonNumber
  | whole (n : Int)
  | float (x : Number.Binary64)
deriving DecidableEq, Repr

inductive Json
  | null
  | bool (b : Bool)
  | number (n : JsonNumber)
  | string (s : String)
  | array (items : List Json)
  | object (members : List (String × Json))
deriving Repr, Inhabited

namespace JsonNumber

/-- Equality of numbers, for which the two zeros are one. -/
def same : JsonNumber → JsonNumber → Bool
  | .whole m, .whole n => m == n
  | .float x, .float y =>
      match x.datum, y.datum with
      | .finite _ 0 _, .finite _ 0 _ => true
      | _, _ => x == y
  | _, _ => false

@[simp] theorem same_refl (n : JsonNumber) : n.same n = true := by
  cases n with
  | whole n => simp [same]
  | float x =>
      simp only [same]
      split <;> simp

def chars : JsonNumber → List Char
  | .whole n => Number.ofInt n
  | .float x => (Number.scientific .double x.datum).getD ['n', 'u', 'l', 'l']

end JsonNumber

namespace Json

/-- A floating-point value as a number, or null when it is not finite. -/
def ofBinary64 (x : Number.Binary64) : Json :=
  match x.datum with
  | .finite .. => .number (.float x)
  | _ => .null

def ofInt (n : Int) : Json := .number (.whole n)

/-- The members with a key set: an old key keeps its place, a new one comes last. -/
def insertMember (key : String) (value : Json) :
    List (String × Json) → List (String × Json)
  | [] => [(key, value)]
  | (k, v) :: rest =>
      if k = key then (k, value) :: rest else (k, v) :: insertMember key value rest

/-- An object with the given members, the last value of a repeated key at its first place. -/
def ofMembers (members : List (String × Json)) : List (String × Json) :=
  members.foldl (fun acc m ↦ insertMember m.1 m.2 acc) []

def member (key : String) (value : Json) : Json := .object [(key, value)]

mutual

/-- Equality up to the order of members. -/
def equivalent : Json → Json → Bool
  | .null, .null => true
  | .bool a, .bool b => a == b
  | .number a, .number b => a.same b
  | .string a, .string b => a == b
  | .array as, .array bs => equivalentItems as bs
  | .object as, .object bs => as.length == bs.length && membersWithin as bs
  | _, _ => false

def equivalentItems : List Json → List Json → Bool
  | [], [] => true
  | a :: as, b :: bs => equivalent a b && equivalentItems as bs
  | _, _ => false

/-- Whether each member has an equivalent one of its own in the second list. -/
def membersWithin : List (String × Json) → List (String × Json) → Bool
  | [], _ => true
  | (key, a) :: as, bs =>
      (match bs.lookup key with
        | some b => equivalent a b
        | none => false) && membersWithin as (bs.eraseP (·.1 == key))

end

mutual

theorem equivalent_refl : (j : Json) → j.equivalent j = true
  | .null | .bool _ | .string _ => by simp [equivalent]
  | .number n => by simp [equivalent]
  | .array items => by simpa only [equivalent] using equivalentItems_refl items
  | .object members => by simp [equivalent, membersWithin_refl members]

theorem equivalentItems_refl : (js : List Json) → equivalentItems js js = true
  | [] => rfl
  | j :: js => by simp [equivalentItems, equivalent_refl j, equivalentItems_refl js]

theorem membersWithin_refl : (ms : List (String × Json)) → membersWithin ms ms = true
  | [] => rfl
  | (key, j) :: ms => by simp [membersWithin, equivalent_refl j, membersWithin_refl ms]

end

def escapeChar (c : Char) : List Char :=
  match c with
  | '"' => ['\\', '"']
  | '\\' => ['\\', '\\']
  | '\x08' => ['\\', 'b']
  | '\t' => ['\\', 't']
  | '\n' => ['\\', 'n']
  | '\x0c' => ['\\', 'f']
  | '\r' => ['\\', 'r']
  | _ =>
      if c.toNat < 32 then
        ['\\', 'u', '0', '0', Nat.digitChar (c.toNat / 16), Nat.digitChar (c.toNat % 16)]
      else [c]

def quotedChars (s : String) : List Char := '"' :: s.toList.flatMap escapeChar ++ ['"']

mutual

/-- The compact text of a tree. -/
def chars : Json → List Char
  | .null => ['n', 'u', 'l', 'l']
  | .bool true => ['t', 'r', 'u', 'e']
  | .bool false => ['f', 'a', 'l', 's', 'e']
  | .number n => n.chars
  | .string s => quotedChars s
  | .array [] => ['[', ']']
  | .array (x :: xs) => '[' :: (chars x ++ itemChars xs)
  | .object [] => ['{', '}']
  | .object ((key, x) :: xs) => '{' :: (quotedChars key ++ ':' :: (chars x ++ memberChars xs))

/-- The items behind the first one, with the closing bracket. -/
def itemChars : List Json → List Char
  | [] => [']']
  | x :: xs => ',' :: (chars x ++ itemChars xs)

/-- The members behind the first one, with the closing brace. -/
def memberChars : List (String × Json) → List Char
  | [] => ['}']
  | (key, x) :: xs => ',' :: (quotedChars key ++ ':' :: (chars x ++ memberChars xs))

end

def text (j : Json) : String := .ofList j.chars

/-- Equality that tells the order of members apart, as the texts do. -/
def identical (a b : Json) : Bool := a.equivalent b && a.text == b.text

theorem equivalent_of_identical {a b : Json} (h : a.identical b = true) :
    a.equivalent b = true := by
  simp only [identical, Bool.and_eq_true] at h
  exact h.1

end Json

end TypedQuery
