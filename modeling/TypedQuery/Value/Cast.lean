import TypedQuery.Value.Basic

/-!
# Numeric casts

An integer is narrowed to the nearest bound, a floating-point value is cut off toward zero. Casts
between integer types never pass through floating point.
-/

namespace TypedQuery

open Number (Binary64)

namespace Value

def int? : Value → Option Int
  | i8 n => some n.toInt
  | i16 n => some n.toInt
  | i32 n => some n.toInt
  | i64 n => some n.toInt
  | _ => none

def binary64? : Value → Option Binary64
  | f32 x => some x.widen
  | f64 x => some x
  | v => v.int?.map Binary64.ofInt

/-- The integer of a range that is nearest to an integer. -/
def clamp (low high n : Int) : Int := max low (min high n)

/-- A numeric value as an integer between two bounds. -/
def saturated (low high : Int) (v : Value) (float : Binary64) : Int :=
  match v.int? with
  | some n => clamp low high n
  | none => float.truncate low high

/-- A numeric value as a value of a numeric type; nothing when either is not numeric. -/
def castNumeric (v : Value) (target : ValueType) : Option Value :=
  match v.binary64? with
  | none => none
  | some float =>
      match target with
      | .i8 => some (i8 (.ofInt (saturated Int8.minValue.toInt Int8.maxValue.toInt v float)))
      | .i16 => some (i16 (.ofInt (saturated Int16.minValue.toInt Int16.maxValue.toInt v float)))
      | .i32 => some (i32 (.ofInt (saturated Int32.minValue.toInt Int32.maxValue.toInt v float)))
      | .i64 => some (i64 (.ofInt (saturated Int64.minValue.toInt Int64.maxValue.toInt v float)))
      | .f32 => some (f32 float.narrow)
      | .f64 => some (f64 float)
      | _ => none

/-- A numeric value as a truth value: positive numbers are true. -/
def numericToBool (v : Value) : Option Value :=
  v.binary64?.map fun x ↦ bool x.isPositive

end Value

end TypedQuery
