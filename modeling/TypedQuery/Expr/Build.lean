import TypedQuery.Expr.Basic

/-!
# Building expressions

One function for each operator that expressions are written with. Comparisons are truth values,
arithmetic has the type of its left operand, and a call of the wrong arity is refused.
-/

namespace TypedQuery

namespace Expr

/-- An operation whose argument count its operator accepts. -/
def mkOperation (type : ValueType) (operator : Operator) (args : List Expr) :
    Except Error Expr :=
  match operator.arity with
  | some expected =>
      if expected.accepts args.length then .ok (.operation type operator args)
      else .error (.arity operator expected args.length)
  | none => .ok (.operation type operator args)

/-- A template whose slots all have an argument. -/
def mkTemplate (type : ValueType) (pattern : String) (args : List Expr) : Except Error Expr := do
  let template ← Template.parse pattern
  if template.maxIndex.all (· < args.length) then pure (.template type template args)
  else throw (.invalidTemplate pattern .outOfRange)

def unary (type : ValueType) (op : Op) (e : Expr) : Expr := .operation type (.op op) [e]

def binary (type : ValueType) (op : Op) (lhs rhs : Expr) : Expr :=
  .operation type (.op op) [lhs, rhs]

def nullary (type : ValueType) (op : Op) : Expr := .operation type (.op op) []

/-! ## Comparisons -/

def eq : Expr → Expr → Expr := binary .bool .eq

def ne : Expr → Expr → Expr := binary .bool .ne

def lt : Expr → Expr → Expr := binary .bool .lt

def gt : Expr → Expr → Expr := binary .bool .gt

def loe : Expr → Expr → Expr := binary .bool .loe

def goe : Expr → Expr → Expr := binary .bool .goe

def between (e low high : Expr) : Expr := .operation .bool (.op .between) [e, low, high]

def isIn : Expr → Expr → Expr := binary .bool .isIn

def notIn : Expr → Expr → Expr := binary .bool .notIn

def isNull : Expr → Expr := unary .bool .isNull

def isNotNull : Expr → Expr := unary .bool .isNotNull

def eqIgnoreCase : Expr → Expr → Expr := binary .bool .eqIgnoreCase

def instanceOf (e : Expr) (t : ValueType) : Expr :=
  binary .bool .instanceOf e (.ofValue (.typeRef t))

def typeOf : Expr → Expr := unary .typeRef .typeOf

/-! ## Truth values -/

def and : Expr → Expr → Expr := binary .bool .and

def or : Expr → Expr → Expr := binary .bool .or

def not : Expr → Expr := unary .bool .not

/-- Joins predicates from the left; nothing when there are none. -/
def fold (join : Expr → Expr → Expr) : List Expr → Option Expr
  | [] => none
  | e :: es => some (es.foldl join e)

def allOf : List Expr → Option Expr := fold and

def anyOf : List Expr → Option Expr := fold or

/-! ## Arithmetic -/

def add (lhs rhs : Expr) : Expr := binary lhs.type .add lhs rhs

def sub (lhs rhs : Expr) : Expr := binary lhs.type .sub lhs rhs

def mul (lhs rhs : Expr) : Expr := binary lhs.type .mult lhs rhs

def div (lhs rhs : Expr) : Expr := binary lhs.type .div lhs rhs

def modulo (lhs rhs : Expr) : Expr := binary lhs.type .mod lhs rhs

def negate (e : Expr) : Expr := unary e.type .negate e

def abs (e : Expr) : Expr := unary e.type .abs e

def sqrt : Expr → Expr := unary .f64 .sqrt

/-! ## Texts -/

def concat : Expr → Expr → Expr := binary .string .concat

def lower : Expr → Expr := unary .string .lower

def upper : Expr → Expr := unary .string .upper

def trim : Expr → Expr := unary .string .trim

def length : Expr → Expr := unary .i32 .length

def substring : Expr → Expr → Expr := binary .string .substr1Arg

def substringRange (e start finish : Expr) : Expr :=
  .operation .string (.op .substr2Args) [e, start, finish]

/-- Where a text first occurs in another one. -/
def locate (e needle : Expr) : Expr := binary .i32 .locate needle e

def isEmptyString : Expr → Expr := unary .bool .stringIsEmpty

def like : Expr → Expr → Expr := binary .bool .like

def matchesRegex : Expr → Expr → Expr := binary .bool .matchesRegex

def startsWith : Expr → Expr → Expr := binary .bool .startsWith

def startsWithIgnoreCase : Expr → Expr → Expr := binary .bool .startsWithIc

def endsWith : Expr → Expr → Expr := binary .bool .endsWith

def endsWithIgnoreCase : Expr → Expr → Expr := binary .bool .endsWithIc

def contains : Expr → Expr → Expr := binary .bool .stringContains

def containsIgnoreCase : Expr → Expr → Expr := binary .bool .stringContainsIc

def stringValue : Expr → Expr := unary .string .stringCast

/-! ## Collections and maps -/

def isMap (e : Expr) : Bool :=
  match e.type with
  | .map _ _ => true
  | _ => false

def isEmpty (e : Expr) : Expr := unary .bool (if e.isMap then .mapIsEmpty else .colIsEmpty) e

def isNotEmpty (e : Expr) : Expr := e.isEmpty.not

def size (e : Expr) : Expr := unary .i32 (if e.isMap then .mapSize else .colSize) e

def containsKey : Expr → Expr → Expr := binary .bool .containsKey

def containsValue : Expr → Expr → Expr := binary .bool .containsValue

/-! ## Comparisons with some or all of many values -/

def anyElement (e : Expr) : Expr := unary e.type .any e

def allElements (e : Expr) : Expr := unary e.type .all e

def eqAny (e values : Expr) : Expr := e.eq values.anyElement

def neAny (e values : Expr) : Expr := e.ne values.anyElement

def gtAll (e values : Expr) : Expr := e.gt values.allElements

def ltAll (e values : Expr) : Expr := e.lt values.allElements

def gtAvg (e values : Expr) : Expr := e.gt (unary .f64 .avgInCol values)

def exist (e : Expr) : Expr := unary .bool .existsRow e

def notExist (e : Expr) : Expr := e.exist.not

/-! ## Aggregates -/

def count : Expr → Expr := unary .i64 .count

def countDistinct : Expr → Expr := unary .i64 .countDistinct

def countAll : Expr := nullary .i64 .countAll

def sum (e : Expr) : Expr := unary e.type .sum e

def avg : Expr → Expr := unary .f64 .avg

def min (e : Expr) : Expr := unary e.type .min e

def max (e : Expr) : Expr := unary e.type .max e

/-! ## Dates -/

def currentDate : Expr := nullary .date .currentDate

def currentTimestamp : Expr := nullary .timestamp .currentTimestamp

def year : Expr → Expr := unary .i32 .year

def month : Expr → Expr := unary .i32 .month

def dayOfMonth : Expr → Expr := unary .i32 .dayOfMonth

def addDays (e days : Expr) : Expr := binary e.type .addDays e days

/-! ## Casts, choices and names -/

def random : Expr := nullary .f64 .random

/-- A numeric conversion, rendered as a cast to the name the dialect has for the type. -/
def numCast (e : Expr) (t : ValueType) : Expr := binary t .numCast e (.ofValue (.typeRef t))

/-- The first of several expressions that is not null; a single one is left as it is. -/
def coalesce (e : Expr) (others : List Expr) : Expr :=
  if others.isEmpty then e else .operation e.type (.op .coalesce) (e :: others)

def aliased (e : Expr) (name : String) : Expr :=
  binary e.type .aliased e (.path (.root e.type name))

/-- The type of a choice is that of its first branch. -/
def choiceType (branches : List (Expr × Expr)) (otherwise : Expr) : ValueType :=
  match branches with
  | [] => otherwise.type
  | (_, value) :: _ => value.type

/-- A choice by conditions: each branch is a condition and a value. -/
def caseOf (branches : List (Expr × Expr)) (otherwise : Expr) : Expr :=
  let t := choiceType branches otherwise
  let chain := branches.foldr
    (fun b rest ↦ .operation t (.op .caseWhen) [b.1, b.2, rest]) (unary t .caseElse otherwise)
  unary t .case chain

/-- A choice by the values that an expression is compared with. -/
def switchOn (base : Expr) (branches : List (Expr × Expr)) (otherwise : Expr) : Expr :=
  let t := choiceType branches otherwise
  let chain := branches.foldr
    (fun b rest ↦ .operation t (.op .caseEqWhen) [base, b.1, b.2, rest])
    (unary t .caseEqElse otherwise)
  binary t .caseEq base chain

/-! ## Rows -/

def tuple (args : List Expr) : Expr := .factory .object .tuple args

/-- The same row with its numbers converted to the types of the arguments. -/
def withNumberConversions : Expr → Expr
  | .factory type inner args => .factory type (.converting inner (args.map Expr.type)) args
  | e => e

/-- The result that the factory of a row makes of as many values as the row has arguments. -/
def newInstance (maker : Factory) (args : List Expr) (row : List Value) : Except Error Value :=
  if row.length = args.length then maker.newInstance row
  else .error (.invalidArgument (.rowSize maker.name args.length row.length))

end Expr

end TypedQuery
