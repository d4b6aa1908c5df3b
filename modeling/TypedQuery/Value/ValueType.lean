/-!
# Types of values

The static types that expressions carry, their short names, and the widths of the numeric ones.
-/

namespace TypedQuery

inductive ValueType
  | bool
  | i8
  | i16
  | i32
  | i64
  | f32
  | f64
  | string
  | date
  | time
  | timestamp
  | uuid
  | json
  | entity (name : String)
  | enum (name : String)
  | collection (item : ValueType)
  | map (key value : ValueType)
  | typeRef
  | object
deriving DecidableEq, Repr, Inhabited

/-- The part of a text behind the last occurrence of a separator, the whole text without one. -/
def afterLast (separator : List Char) (cs : List Char) : List Char :=
  go cs cs
where
  go (best : List Char) : List Char → List Char
    | [] => best
    | c :: rest =>
        if separator.isPrefixOf (c :: rest) then go ((c :: rest).drop separator.length) rest
        else go best rest

/-- A type name without its module or package qualifiers. -/
def shortTypeName (name : String) : String :=
  .ofList (afterLast ['.'] (afterLast [':', ':'] name.toList))

namespace ValueType

/-- The place of a numeric type in the order of widths. -/
def numericRank : ValueType → Option Nat
  | i8 => some 0
  | i16 => some 1
  | i32 => some 2
  | i64 => some 3
  | f32 => some 4
  | f64 => some 5
  | _ => none

def isNumeric (t : ValueType) : Bool := t.numericRank.isSome

def isEntity : ValueType → Bool
  | entity _ => true
  | _ => false

def isCollectionLike : ValueType → Bool
  | collection _ | map _ _ => true
  | _ => false

/-- The lower-case short name used by casts and type comparisons. -/
def simpleName : ValueType → String
  | bool => "boolean"
  | i8 => "byte"
  | i16 => "short"
  | i32 => "integer"
  | i64 => "long"
  | f32 => "float"
  | f64 => "double"
  | string => "string"
  | date => "date"
  | time => "time"
  | timestamp => "timestamp"
  | uuid => "uuid"
  | json => "json"
  | entity name | enum name => shortTypeName name
  | collection _ => "collection"
  | map _ _ => "map"
  | typeRef => "class"
  | object => "object"

/-- The type that the elements of a collection or the values of a map have. -/
def element : ValueType → ValueType
  | collection item => item
  | map _ value => value
  | t => t

end ValueType

end TypedQuery
