import TypedQuery.Number.Shortest

/-!
# Written numbers

A floating-point value is written with its shortest decimal digits. `plain` never uses an exponent;
`scientific` always shows a point or an exponent and is the notation of JSON numbers.
-/

namespace TypedQuery.Number

def digitChar (n : Nat) : Char := Char.ofNat (48 + n % 10)

/-- The decimal digits of a number, the leading one first. -/
def digitsOf (n : Nat) : List Char := Nat.toDigits 10 n

def zeros (n : Nat) : List Char := List.replicate n '0'

/-- A number in at least `width` digits. -/
def padded (width n : Nat) : List Char :=
  let ds := digitsOf n
  zeros (width - ds.length) ++ ds

def ofInt (n : Int) : List Char :=
  if n < 0 then '-' :: digitsOf n.natAbs else digitsOf n.natAbs

namespace Decimal

/-- The number of digits before the point, negative when zeros follow it. -/
def pointPosition (d : Decimal) : Int := (digitsOf d.digits).length + d.exponent

/-- Positional digits; a whole number gets `whole` behind its last digit. -/
def positional (whole : List Char) (d : Decimal) : List Char :=
  let ds := digitsOf d.digits
  let point := d.pointPosition
  if 0 ≤ d.exponent then ds ++ zeros d.exponent.toNat ++ whole
  else if point ≤ 0 then '0' :: '.' :: zeros (-point).toNat ++ ds
  else ds.take point.toNat ++ '.' :: ds.drop point.toNat

/-- One digit, the others behind a point, and a signed exponent. -/
def exponential (d : Decimal) : List Char :=
  let mantissa := match digitsOf d.digits with
    | [] => []
    | [c] => [c]
    | c :: cs => c :: '.' :: cs
  let e := d.pointPosition - 1
  mantissa ++ 'e' :: (if e < 0 then '-' else '+') :: digitsOf e.natAbs

end Decimal

def signed (negative : Bool) (cs : List Char) : List Char :=
  if negative then '-' :: cs else cs

/-- Shortest digits without an exponent, no point on whole numbers, of two equally near digits the
larger. -/
def plain (f : Format) : Datum → List Char
  | .notANumber .. => ['N', 'a', 'N']
  | .infinite negative => signed negative ['i', 'n', 'f']
  | .finite negative 0 _ => signed negative ['0']
  | .finite negative mantissa exponent =>
      signed negative ((shortest f .away mantissa exponent).positional [])

/-- Shortest digits, positional while the leading digit stands for `10 ^ -5` to `10 ^ 15`; a whole
number ends in `.0`, and of two equally near digits the even one is taken. JSON has no word for what
is not finite. -/
def scientific (f : Format) : Datum → Option (List Char)
  | .notANumber .. | .infinite _ => none
  | .finite negative 0 _ => some (signed negative ['0', '.', '0'])
  | .finite negative mantissa exponent =>
      let d := shortest f .toEven mantissa exponent
      let positional := decide (-5 < d.pointPosition ∧ d.pointPosition ≤ 16)
      some (signed negative (if positional then d.positional ['.', '0'] else d.exponential))

def Binary32.text (x : Binary32) : String := .ofList (plain .single x.datum)

def Binary64.text (x : Binary64) : String := .ofList (plain .double x.datum)

end TypedQuery.Number
