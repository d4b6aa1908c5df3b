/-!
# Operators

The operators of expressions, each with its name, the number of arguments it takes, and how tightly
it binds. Paths render through operators of their own, and a dialect may add custom ones.
-/

namespace TypedQuery

/-- How many arguments an operator takes. -/
inductive Arity
  | exact (n : Nat)
  | atLeast (n : Nat)
deriving DecidableEq, Repr

namespace Arity

def accepts : Arity → Nat → Bool
  | exact n, count => count == n
  | atLeast n, count => n ≤ count

def text : Arity → String
  | exact n => toString n
  | atLeast n => "at least " ++ toString n

end Arity

/-- The built-in operators. -/
inductive Op
  | eq
  | ne
  | lt
  | gt
  | loe
  | goe
  | between
  | isIn
  | notIn
  | isNull
  | isNotNull
  | eqIgnoreCase
  | and
  | or
  | not
  | add
  | sub
  | mult
  | div
  | mod
  | negate
  | concat
  | lower
  | upper
  | trim
  | length
  | substr1Arg
  | substr2Args
  | locate
  | stringIsEmpty
  | like
  | matchesRegex
  | matchesRegexIc
  | startsWith
  | startsWithIc
  | endsWith
  | endsWithIc
  | stringContains
  | stringContainsIc
  | colIsEmpty
  | colSize
  | mapIsEmpty
  | mapSize
  | containsKey
  | containsValue
  | memberOf
  | notMemberOf
  | any
  | all
  | avgInCol
  | maxInCol
  | minInCol
  | existsRow
  | count
  | countDistinct
  | countAll
  | sum
  | avg
  | min
  | max
  | currentDate
  | currentTime
  | currentTimestamp
  | year
  | month
  | dayOfMonth
  | hour
  | minute
  | second
  | addDays
  | addMonths
  | addYears
  | diffDays
  | abs
  | sqrt
  | round
  | ceil
  | floor
  | power
  | ln
  | log
  | random
  | cast
  | numCast
  | stringCast
  | instanceOf
  | typeOf
  | case
  | caseWhen
  | caseElse
  | caseEq
  | caseEqWhen
  | caseEqElse
  | coalesce
  | list
  | aliased
  | wrapped
  | nextval
deriving DecidableEq, Repr

/-- What every dialect shares about a built-in operator. An argument is put in parentheses when its
operator has a higher precedence number, thus binds looser, than the enclosing template has; a
template with `-1` leaves its arguments alone. -/
structure OpSpec where
  name : String
  arity : Arity
  precedence : Int

namespace Op

def spec : Op → OpSpec
  | .eq => ⟨"EQ", .exact 2, 18⟩
  | .ne => ⟨"NE", .exact 2, 18⟩
  | .lt => ⟨"LT", .exact 2, 20⟩
  | .gt => ⟨"GT", .exact 2, 20⟩
  | .loe => ⟨"LOE", .exact 2, 20⟩
  | .goe => ⟨"GOE", .exact 2, 20⟩
  | .between => ⟨"BETWEEN", .exact 3, 20⟩
  | .isIn => ⟨"IN", .exact 2, 20⟩
  | .notIn => ⟨"NOT_IN", .exact 2, 20⟩
  | .isNull => ⟨"IS_NULL", .exact 1, 20⟩
  | .isNotNull => ⟨"IS_NOT_NULL", .exact 1, 20⟩
  | .eqIgnoreCase => ⟨"EQ_IGNORE_CASE", .exact 2, 18⟩
  | .and => ⟨"AND", .exact 2, 36⟩
  | .or => ⟨"OR", .exact 2, 38⟩
  | .not => ⟨"NOT", .exact 1, 35⟩
  | .add => ⟨"ADD", .exact 2, 13⟩
  | .sub => ⟨"SUB", .exact 2, 13⟩
  | .mult => ⟨"MULT", .exact 2, 12⟩
  | .div => ⟨"DIV", .exact 2, 12⟩
  | .mod => ⟨"MOD", .exact 2, -1⟩
  | .negate => ⟨"NEGATE", .exact 1, 10⟩
  | .concat => ⟨"CONCAT", .exact 2, 14⟩
  | .lower => ⟨"LOWER", .exact 1, -1⟩
  | .upper => ⟨"UPPER", .exact 1, -1⟩
  | .trim => ⟨"TRIM", .exact 1, -1⟩
  | .length => ⟨"LENGTH", .exact 1, -1⟩
  | .substr1Arg => ⟨"SUBSTR1_ARG", .exact 2, 12⟩
  | .substr2Args => ⟨"SUBSTR2_ARGS", .exact 3, 12⟩
  | .locate => ⟨"LOCATE", .exact 2, -1⟩
  | .stringIsEmpty => ⟨"STRING_IS_EMPTY", .exact 1, 18⟩
  | .like => ⟨"LIKE", .exact 2, 20⟩
  | .matchesRegex => ⟨"MATCHES", .exact 2, 20⟩
  | .matchesRegexIc => ⟨"MATCHES_IC", .exact 2, 20⟩
  | .startsWith => ⟨"STARTS_WITH", .exact 2, 20⟩
  | .startsWithIc => ⟨"STARTS_WITH_IC", .exact 2, 20⟩
  | .endsWith => ⟨"ENDS_WITH", .exact 2, 20⟩
  | .endsWithIc => ⟨"ENDS_WITH_IC", .exact 2, 20⟩
  | .stringContains => ⟨"STRING_CONTAINS", .exact 2, 20⟩
  | .stringContainsIc => ⟨"STRING_CONTAINS_IC", .exact 2, 20⟩
  | .colIsEmpty => ⟨"COL_IS_EMPTY", .exact 1, 20⟩
  | .colSize => ⟨"COL_SIZE", .exact 1, -1⟩
  | .mapIsEmpty => ⟨"MAP_IS_EMPTY", .exact 1, 20⟩
  | .mapSize => ⟨"MAP_SIZE", .exact 1, -1⟩
  | .containsKey => ⟨"CONTAINS_KEY", .exact 2, 20⟩
  | .containsValue => ⟨"CONTAINS_VALUE", .exact 2, 20⟩
  | .memberOf => ⟨"MEMBER_OF", .exact 2, 20⟩
  | .notMemberOf => ⟨"NOT_MEMBER_OF", .exact 2, 20⟩
  | .any => ⟨"ANY", .exact 1, -1⟩
  | .all => ⟨"ALL", .exact 1, -1⟩
  | .avgInCol => ⟨"AVG_IN_COL", .exact 1, -1⟩
  | .maxInCol => ⟨"MAX_IN_COL", .exact 1, -1⟩
  | .minInCol => ⟨"MIN_IN_COL", .exact 1, -1⟩
  | .existsRow => ⟨"EXISTS", .exact 1, -1⟩
  | .count => ⟨"COUNT", .exact 1, -1⟩
  | .countDistinct => ⟨"COUNT_DISTINCT", .exact 1, -1⟩
  | .countAll => ⟨"COUNT_ALL", .exact 0, -1⟩
  | .sum => ⟨"SUM", .exact 1, -1⟩
  | .avg => ⟨"AVG", .exact 1, -1⟩
  | .min => ⟨"MIN", .exact 1, -1⟩
  | .max => ⟨"MAX", .exact 1, -1⟩
  | .currentDate => ⟨"CURRENT_DATE", .exact 0, -1⟩
  | .currentTime => ⟨"CURRENT_TIME", .exact 0, -1⟩
  | .currentTimestamp => ⟨"CURRENT_TIMESTAMP", .exact 0, -1⟩
  | .year => ⟨"YEAR", .exact 1, -1⟩
  | .month => ⟨"MONTH", .exact 1, -1⟩
  | .dayOfMonth => ⟨"DAY_OF_MONTH", .exact 1, -1⟩
  | .hour => ⟨"HOUR", .exact 1, -1⟩
  | .minute => ⟨"MINUTE", .exact 1, -1⟩
  | .second => ⟨"SECOND", .exact 1, -1⟩
  | .addDays => ⟨"ADD_DAYS", .exact 2, -1⟩
  | .addMonths => ⟨"ADD_MONTHS", .exact 2, -1⟩
  | .addYears => ⟨"ADD_YEARS", .exact 2, -1⟩
  | .diffDays => ⟨"DIFF_DAYS", .exact 2, -1⟩
  | .abs => ⟨"ABS", .exact 1, -1⟩
  | .sqrt => ⟨"SQRT", .exact 1, -1⟩
  | .round => ⟨"ROUND", .exact 1, -1⟩
  | .ceil => ⟨"CEIL", .exact 1, -1⟩
  | .floor => ⟨"FLOOR", .exact 1, -1⟩
  | .power => ⟨"POWER", .exact 2, -1⟩
  | .ln => ⟨"LN", .exact 1, -1⟩
  | .log => ⟨"LOG", .exact 2, -1⟩
  | .random => ⟨"RANDOM", .exact 0, -1⟩
  | .cast => ⟨"CAST", .exact 2, -1⟩
  | .numCast => ⟨"NUM_CAST", .exact 2, -1⟩
  | .stringCast => ⟨"STRING_CAST", .exact 1, -1⟩
  | .instanceOf => ⟨"INSTANCE_OF", .exact 2, 18⟩
  | .typeOf => ⟨"TYPE_OF", .exact 1, -1⟩
  | .case => ⟨"CASE", .exact 1, -1⟩
  | .caseWhen => ⟨"CASE_WHEN", .exact 3, 0⟩
  | .caseElse => ⟨"CASE_ELSE", .exact 1, -1⟩
  | .caseEq => ⟨"CASE_EQ", .exact 2, -1⟩
  | .caseEqWhen => ⟨"CASE_EQ_WHEN", .exact 4, 0⟩
  | .caseEqElse => ⟨"CASE_EQ_ELSE", .exact 1, -1⟩
  | .coalesce => ⟨"COALESCE", .atLeast 2, -1⟩
  | .list => ⟨"LIST", .exact 2, -1⟩
  | .aliased => ⟨"ALIAS", .exact 2, -1⟩
  | .wrapped => ⟨"WRAPPED", .exact 1, -1⟩
  | .nextval => ⟨"NEXTVAL", .exact 1, -1⟩

def name (op : Op) : String := op.spec.name

def arity (op : Op) : Arity := op.spec.arity

def precedence (op : Op) : Int := op.spec.precedence

/-- The built-in operators in their own order. -/
def inOrder : List Op :=
  [.eq, .ne, .lt, .gt, .loe, .goe, .between, .isIn, .notIn, .isNull, .isNotNull, .eqIgnoreCase,
    .and, .or, .not, .add, .sub, .mult, .div, .mod, .negate, .concat, .lower, .upper, .trim,
    .length, .substr1Arg, .substr2Args, .locate, .stringIsEmpty, .like, .matchesRegex,
    .matchesRegexIc, .startsWith, .startsWithIc, .endsWith, .endsWithIc, .stringContains,
    .stringContainsIc, .colIsEmpty, .colSize, .mapIsEmpty, .mapSize, .containsKey, .containsValue,
    .memberOf, .notMemberOf, .any, .all, .avgInCol, .maxInCol, .minInCol, .existsRow, .count,
    .countDistinct, .countAll, .sum, .avg, .min, .max, .currentDate, .currentTime,
    .currentTimestamp, .year, .month, .dayOfMonth, .hour, .minute, .second, .addDays, .addMonths,
    .addYears, .diffDays, .abs, .sqrt, .round, .ceil, .floor, .power, .ln, .log, .random, .cast,
    .numCast, .stringCast, .instanceOf, .typeOf, .case, .caseWhen, .caseElse, .caseEq,
    .caseEqWhen, .caseEqElse, .coalesce, .list, .aliased, .wrapped, .nextval]

/-- Operators whose constant arguments take the numeric type of the other arguments. -/
def isNumeric : Op → Bool
  | .add | .sub | .mult | .div | .lt | .loe | .gt | .goe | .between => true
  | _ => false

end Op

/-- The ways in which a path goes on from its parent. -/
inductive PathKind
  | root
  | property
  | listValue
  | listIndex
  | mapValue
  | mapKey
  | collectionAny
deriving DecidableEq, Repr

namespace PathKind

def name : PathKind → String
  | root => "VARIABLE"
  | property => "PROPERTY"
  | listValue => "LIST_VALUE"
  | listIndex => "LIST_VALUE_CONSTANT"
  | mapValue => "MAP_VALUE"
  | mapKey => "MAP_VALUE_CONSTANT"
  | collectionAny => "COLLECTION_ANY"

def arity : PathKind → Arity
  | root | collectionAny => .exact 1
  | _ => .exact 2

def inOrder : List PathKind :=
  [root, property, listValue, listIndex, mapValue, mapKey, collectionAny]

end PathKind

/-- What a template is registered for. -/
inductive Operator
  | op (op : Op)
  | path (kind : PathKind)
  | custom (name : String)
deriving DecidableEq, Repr

namespace Operator

/-- The arity of an operator; a custom one states its own at registration. -/
def arity : Operator → Option Arity
  | .op o => some o.arity
  | .path kind => some kind.arity
  | .custom _ => none

def precedence : Operator → Int
  | .op o => o.precedence
  | .path _ | .custom _ => -1

def text : Operator → String
  | .op o => o.name
  | .path kind => "PATH_" ++ kind.name
  | .custom name => name

end Operator

end TypedQuery
