import TypedQuery.Error
import TypedQuery.Value.Cast

/-!
# Factories

A factory builds one result from the values of a row. It can be wrapped so that numeric values are
first converted to declared types.
-/

namespace TypedQuery

inductive Factory
  | tuple
  | function (name : String) (build : List Value → Except Error Value)
  | converting (inner : Factory) (types : List ValueType)

namespace Factory

def name : Factory → String
  | tuple => "tuple"
  | function name _ => name
  | converting inner _ => "number_conversions(" ++ inner.name ++ ")"

/-- A number becomes a truth value where one is declared and is cast to a declared numeric type
unless it has it already. All else stays as it is. -/
def convert (v : Value) (target : ValueType) : Value :=
  let converted :=
    match target with
    | .bool => v.numericToBool
    | _ => if target.isNumeric && v.valueType != target then v.castNumeric target else none
  converted.getD v

/-- Converts the values that have a declared type. -/
def convertRow : List ValueType → List Value → List Value
  | t :: ts, v :: vs => convert v t :: convertRow ts vs
  | _, vs => vs

def newInstance : Factory → List Value → Except Error Value
  | tuple, row => .ok (.tuple row)
  | function _ build, row => build row
  | converting inner types, row => inner.newInstance (convertRow types row)

/-- Counts the values of a row. -/
def count : Factory :=
  .function "count" fun row ↦ .ok (.i64 (.ofNat row.length))

/-- Takes the last value of a row. -/
def last : Factory :=
  .function "last" fun row ↦
    match row.getLast? with
    | some v => .ok v
    | none => .error (.invalidArgument .noLastValue)

end Factory

end TypedQuery
