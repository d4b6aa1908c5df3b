/-!
# Binary floating-point data

A binary interchange format is given by the widths of its two fields. A datum is read from its bits
as sign, mantissa and exponent, and every conversion is exact integer arithmetic followed by one
rounding to the nearest representable value, a tie going to the even mantissa.
-/

namespace TypedQuery.Number

/-- The power of two with a given exponent. -/
def twoTo (n : Nat) : Nat := Nat.pow 2 n

/-- The field widths of a binary interchange format. -/
structure Format where
  exponentBits : Nat
  fractionBits : Nat
deriving DecidableEq, Repr

namespace Format

/-- Four bytes: eight exponent bits and twenty-three fraction bits. -/
def single : Format := ⟨8, 23⟩

/-- Eight bytes: eleven exponent bits and fifty-two fraction bits. -/
def double : Format := ⟨11, 52⟩

/-- The exponent of the last place of the least positive value. -/
def minExponent (f : Format) : Int :=
  2 - twoTo (f.exponentBits - 1) - f.fractionBits

/-- The biased exponent kept for infinities and for data that are no numbers. -/
def maxBiased (f : Format) : Nat := twoTo f.exponentBits - 1

def signBit (f : Format) (negative : Bool) : Nat :=
  if negative then twoTo (f.exponentBits + f.fractionBits) else 0

def infinity (f : Format) (negative : Bool) : Nat :=
  f.signBit negative + f.maxBiased * twoTo f.fractionBits

end Format

/-- What the bits of a format stand for; a finite datum is `mantissa * 2 ^ exponent`. -/
inductive Datum
  | notANumber (negative : Bool) (payload : Nat)
  | infinite (negative : Bool)
  | finite (negative : Bool) (mantissa : Nat) (exponent : Int)
deriving DecidableEq, Repr

namespace Datum

def ofBits (f : Format) (bits : Nat) : Datum :=
  let negative := bits.testBit (f.exponentBits + f.fractionBits)
  let biased := bits / twoTo f.fractionBits % twoTo f.exponentBits
  let fraction := bits % twoTo f.fractionBits
  if biased = f.maxBiased then
    if fraction = 0 then .infinite negative else .notANumber negative fraction
  else if biased = 0 then .finite negative fraction f.minExponent
  else .finite negative (fraction + twoTo f.fractionBits) (f.minExponent + (biased - 1 : Nat))

/-- A finite datum as an exact quotient of natural numbers, its sign left out. -/
def quotient (mantissa : Nat) (exponent : Int) : Nat × Nat :=
  if 0 ≤ exponent then (mantissa * twoTo exponent.toNat, 1)
  else (mantissa, twoTo (-exponent).toNat)

end Datum

/-- The integer nearest to a quotient, a tie going to the even one. -/
def roundHalfEven (num den : Nat) : Nat :=
  let q := num / den
  let r := 2 * (num % den)
  if den < r ∨ (r = den ∧ q % 2 = 1) then q + 1 else q

/-- The exponent `e` with `2 ^ e ≤ num / den < 2 ^ (e + 1)`, for positive arguments. -/
def binaryMagnitude (num den : Nat) : Int :=
  let e : Int := (Nat.log2 num : Int) - Nat.log2 den
  let fits := if 0 ≤ e then den * twoTo e.toNat ≤ num else den ≤ num * twoTo (-e).toNat
  if fits then e else e - 1

namespace Format

/-- The bits of the value of a format that is nearest to `num / den`, infinity when it is too large.
The carry of a mantissa that rounds up to the next power of two runs into the exponent field. -/
def ofQuotient (f : Format) (negative : Bool) (num den : Nat) : Nat :=
  if num = 0 then f.signBit negative
  else
    let exponent := max (binaryMagnitude num den - f.fractionBits) f.minExponent
    let mantissa :=
      if 0 ≤ exponent then roundHalfEven num (den * twoTo exponent.toNat)
      else roundHalfEven (num * twoTo (-exponent).toNat) den
    let bits := (exponent - f.minExponent).toNat * twoTo f.fractionBits + mantissa
    if f.maxBiased * twoTo f.fractionBits ≤ bits then f.infinity negative
    else f.signBit negative + bits

/-- The bits of a datum in another format. A datum that is no number keeps its sign and the leading
bits of its payload and becomes quiet. -/
def ofDatum (f : Format) (fractionBits : Nat) : Datum → Nat
  | .infinite negative => f.infinity negative
  | .finite negative mantissa exponent =>
      let (num, den) := Datum.quotient mantissa exponent
      f.ofQuotient negative num den
  | .notANumber negative payload =>
      let quiet := twoTo (f.fractionBits - 1)
      let kept := payload * twoTo f.fractionBits / twoTo fractionBits
      f.infinity negative + (kept ||| quiet)

end Format

/-- A four-byte floating-point value, told from others by its bits. -/
structure Binary32 where
  bits : UInt32
deriving DecidableEq, Repr

/-- An eight-byte floating-point value, told from others by its bits. -/
structure Binary64 where
  bits : UInt64
deriving DecidableEq, Repr

namespace Binary32

def datum (x : Binary32) : Datum := .ofBits .single x.bits.toNat

/-- Every four-byte value is an eight-byte value. -/
def widen (x : Binary32) : Binary64 :=
  ⟨.ofNat (Format.double.ofDatum Format.single.fractionBits x.datum)⟩

end Binary32

namespace Binary64

def datum (x : Binary64) : Datum := .ofBits .double x.bits.toNat

def narrow (x : Binary64) : Binary32 :=
  ⟨.ofNat (Format.single.ofDatum Format.double.fractionBits x.datum)⟩

/-- The value nearest to an integer. -/
def ofInt (n : Int) : Binary64 :=
  ⟨.ofNat (Format.double.ofQuotient (n < 0) n.natAbs 1)⟩

def isPositive (x : Binary64) : Bool :=
  match x.datum with
  | .infinite negative => !negative
  | .finite negative mantissa _ => !negative && mantissa != 0
  | .notANumber .. => false

/-- The integer part, cut off toward zero and kept between two bounds; zero for what is no
number. -/
def truncate (x : Binary64) (low high : Int) : Int :=
  match x.datum with
  | .notANumber .. => 0
  | .infinite negative => if negative then low else high
  | .finite negative mantissa exponent =>
      let (num, den) := Datum.quotient mantissa exponent
      let whole : Int := (num / den : Nat)
      max low (min high (if negative then -whole else whole))

end Binary64

end TypedQuery.Number
