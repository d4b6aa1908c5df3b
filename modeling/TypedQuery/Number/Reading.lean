import TypedQuery.Number.Notation

/-!
# Reading numbers

Digits are read most significant first. A decimal with a point or an exponent is read in two
roundings: its leading digits, as many as eight bytes hold, are rounded to a floating-point value,
and this value is multiplied or divided by a power of ten.
-/

namespace TypedQuery.Number

def digitValue (c : Char) : Nat := c.toNat - 48

def hexDigit? (c : Char) : Option Nat :=
  if '0' ≤ c ∧ c ≤ '9' then some (c.toNat - 48)
  else if 'a' ≤ c ∧ c ≤ 'f' then some (c.toNat - 87)
  else if 'A' ≤ c ∧ c ≤ 'F' then some (c.toNat - 55)
  else none

/-- The number written by hexadecimal digits of either case, none when a character is no digit. -/
def hexValue? (cs : List Char) : Option Nat :=
  cs.foldlM (fun n c ↦ (hexDigit? c).map fun d ↦ 16 * n + d) 0

def decimalValue (ds : List Char) : Nat := ds.foldl (fun n c ↦ 10 * n + digitValue c) 0

/-- An integer of at least one digit with a sign or without one. -/
def integer? : List Char → Option Int
  | '-' :: ds => natural? ds |>.map fun n ↦ -(n : Int)
  | '+' :: ds => natural? ds |>.map fun n ↦ (n : Int)
  | ds => natural? ds |>.map fun n ↦ (n : Int)
where
  natural? (ds : List Char) : Option Nat :=
    if !ds.isEmpty && ds.all Char.isDigit then some (decimalValue ds) else none

/-- The value of the leading digits that fits into eight bytes, and how many digits are left. -/
def leadingValue (n : Nat) : List Char → Nat × Nat
  | [] => (n, 0)
  | c :: cs =>
      let m := 10 * n + digitValue c
      if m < UInt64.size then leadingValue m cs else (n, cs.length + 1)

namespace Binary64

/-- Numerator and denominator of the magnitude of a finite value. -/
def quotient? (x : Binary64) : Option (Nat × Nat) :=
  match x.datum with
  | .finite _ mantissa exponent => some (Datum.quotient mantissa exponent)
  | _ => none

def ofQuotient (negative : Bool) (num den : Nat) : Binary64 :=
  ⟨.ofNat (Format.double.ofQuotient negative num den)⟩

/-- The value nearest to `10 ^ n`. -/
def powerOfTen (n : Nat) : Binary64 := ofQuotient false (Nat.pow 10 n) 1

/-- The product of two magnitudes under the given sign. -/
def scaleUp (negative : Bool) (x y : Binary64) : Option Binary64 := do
  let (a, b) ← x.quotient?
  let (c, d) ← y.quotient?
  return ofQuotient negative (a * c) (b * d)

/-- The quotient of two magnitudes under the given sign. -/
def scaleDown (negative : Bool) (x y : Binary64) : Option Binary64 := do
  let (a, b) ← x.quotient?
  let (c, d) ← y.quotient?
  return ofQuotient negative (a * d) (b * c)

/-- The largest exponent of a power of ten that is finite. -/
def maxPower : Nat := 308

/-- The value read from the digits of a decimal whose point stands `exponent` places behind the last
digit, or before it when that is negative; none when it is too large. Below `10 ^ -308` the division
takes two steps, which bring any eight-byte integer to zero at the latest. -/
def ofDecimal? (negative : Bool) (ds : List Char) (exponent : Int) : Option Binary64 :=
  let (lead, others) := leadingValue 0 ds
  let x := ofInt lead
  let e := exponent + others
  if lead = 0 then some (ofQuotient negative 0 1)
  else if 0 ≤ e then
    if e ≤ maxPower then
      (scaleUp negative x (powerOfTen e.toNat)).filter fun y ↦ y.quotient?.isSome
    else none
  else do
    let n := e.natAbs
    let y ← scaleDown negative x (powerOfTen (min n maxPower))
    scaleDown negative y (powerOfTen (min (n - maxPower) maxPower))

end Binary64

end TypedQuery.Number
