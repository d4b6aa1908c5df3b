import TypedQuery.Number.Notation

/-!
# Dates and times of day

Calendar data without a time zone, and their written form.
-/

namespace TypedQuery

open Number (padded digitsOf)

structure Date where
  year : Int
  month : Nat
  day : Nat
deriving DecidableEq, Repr

/-- A time of day; a leap second has a billion or more nanoseconds. -/
structure TimeOfDay where
  hour : Nat
  minute : Nat
  second : Nat
  nanos : Nat
deriving DecidableEq, Repr

structure Timestamp where
  date : Date
  time : TimeOfDay
deriving DecidableEq, Repr

namespace Date

def isLeapYear (year : Int) : Bool := year % 4 == 0 && (year % 100 != 0 || year % 400 == 0)

def daysIn (year : Int) (month : Nat) : Nat :=
  if month = 2 then if isLeapYear year then 29 else 28
  else if month = 4 ∨ month = 6 ∨ month = 9 ∨ month = 11 then 30
  else 31

/-- Whether there is such a day, in the years that a count of days in four bytes reaches. -/
def isValid (d : Date) : Bool :=
  decide (-262143 ≤ d.year ∧ d.year ≤ 262142 ∧ 1 ≤ d.month ∧ d.month ≤ 12 ∧
    1 ≤ d.day ∧ d.day ≤ daysIn d.year d.month)

/-- Years of four digits stand alone, all others get a sign and at least four digits. -/
def yearChars (year : Int) : List Char :=
  if 0 ≤ year ∧ year ≤ 9999 then padded 4 year.natAbs
  else (if year < 0 then '-' else '+') :: padded 4 year.natAbs

def chars (d : Date) : List Char :=
  yearChars d.year ++ '-' :: (padded 2 d.month ++ '-' :: padded 2 d.day)

def text (d : Date) : String := .ofList d.chars

end Date

namespace TimeOfDay

/-- Whether a clock shows this time; only the last second of a minute can be a leap second. -/
def isValid (t : TimeOfDay) : Bool :=
  decide (t.hour < 24 ∧ t.minute < 60 ∧ t.second < 60 ∧
    (t.nanos < 1000000000 ∨ (t.second = 59 ∧ t.nanos < 2000000000)))

/-- The fewest of three, six or nine digits that are exact, none for a whole second. -/
def fractionChars (nanos : Nat) : List Char :=
  if nanos = 0 then []
  else if nanos % 1000000 = 0 then '.' :: padded 3 (nanos / 1000000)
  else if nanos % 1000 = 0 then '.' :: padded 6 (nanos / 1000)
  else '.' :: padded 9 nanos

def chars (t : TimeOfDay) : List Char :=
  let leap := 1000000000 ≤ t.nanos
  let second := if leap then t.second + 1 else t.second
  let nanos := if leap then t.nanos - 1000000000 else t.nanos
  padded 2 t.hour ++ ':' :: (padded 2 t.minute ++ ':' :: padded 2 second) ++ fractionChars nanos

def text (t : TimeOfDay) : String := .ofList t.chars

end TimeOfDay

namespace Timestamp

def text (t : Timestamp) : String := .ofList (t.date.chars ++ ' ' :: t.time.chars)

end Timestamp

/-- A universally unique identifier. -/
structure Uuid where
  bits : BitVec 128
deriving DecidableEq, Repr

namespace Uuid

/-- Thirty-two lower-case hexadecimal digits. -/
def digits (u : Uuid) : List Char :=
  let ds := Nat.toDigits 16 u.bits.toNat
  List.replicate (32 - ds.length) '0' ++ ds

/-- The digits in hyphenated groups of eight, four, four, four and twelve. -/
def text (u : Uuid) : String :=
  let ds := u.digits
  .ofList (ds.take 8 ++ '-' :: (ds.drop 8).take 4 ++ '-' :: (ds.drop 12).take 4 ++
    '-' :: (ds.drop 16).take 4 ++ '-' :: ds.drop 20)

end Uuid

end TypedQuery
