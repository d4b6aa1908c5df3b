import TypedQuery.Dialect.Basic

/-!
# Building dialects

A dialect starts from the templates of its family and is changed by settings, one after the other.
It is finished when every operator that all queries need has a template.
-/

namespace TypedQuery

/-- One change to a dialect. Limit forms are given as patterns. -/
inductive Setting
  | template (operator : Operator) (pattern : String)
  | templateAt (precedence : Int) (operator : Operator) (pattern : String)
  | custom (name : String) (arity : Arity) (pattern : String) (precedence : Int)
  | layer (name : String)
  | quote (c : Char)
  | escape (c : Char)
  | placeholders (style : PlaceholderStyle)
  | listStyle (style : ListStyle)
  | pagination (forms : Pagination String)
  | typeAsString (value : Bool)
  | withForOn (value : Bool)
  | pathInEntities (value : Bool)
  | enumInPath (value : Bool)
  | nullsOrdering (value : Bool)
  | nativeMerge (value : Bool)
  | existsProjection (text : String)
  | wrapElements (ops : List Op)
  | typeName (t : ValueType) (name : String)
  | joinKeywords (keywords : JoinKeywords)

namespace LimitForms

def parse (forms : LimitForms String) : Except Error (LimitForms Template) := do
  let limit ← Template.parse forms.limit
  let offset ← Template.parse forms.offset
  let both ← Template.parse forms.both
  pure ⟨limit, offset, both⟩

end LimitForms

namespace Pagination

def parse : Pagination String → Except Error (Pagination Template)
  | external => pure external
  | limitOffset forms => limitOffset <$> forms.parse
  | fetchFirst forms => fetchFirst <$> forms.parse
  | topRowNumber top filter => do
      let top ← Template.parse top
      let filter ← filter.parse
      pure (topRowNumber top filter)

end Pagination

namespace Registry

def registerOps (r : Registry) (entries : List (Op × String)) : Except Error Registry :=
  entries.foldlM (fun r e ↦ r.register (.op e.1) e.2) r

/-- Templates of both families. -/
def baseOps : List (Op × String) :=
  [(.eq, "{0} = {1}"), (.ne, "{0} <> {1}"), (.lt, "{0} < {1}"), (.gt, "{0} > {1}"),
    (.loe, "{0} <= {1}"), (.goe, "{0} >= {1}"), (.between, "{0} between {1} and {2}"),
    (.isIn, "{0} in {1}"), (.notIn, "{0} not in {1}"), (.isNull, "{0} is null"),
    (.isNotNull, "{0} is not null"), (.eqIgnoreCase, "{0l} = {1l}"), (.and, "{0} and {1}"),
    (.or, "{0} or {1}"), (.not, "not {0}"), (.add, "{0} + {1}"), (.sub, "{0} - {1}"),
    (.mult, "{0} * {1}"), (.div, "{0} / {1}"), (.mod, "mod({0},{1})"), (.negate, "-{0}"),
    (.concat, "{0} || {1}"), (.lower, "lower({0})"), (.upper, "upper({0})"),
    (.trim, "trim({0})"), (.length, "length({0})"), (.substr1Arg, "substr({0},{1}+1)"),
    (.substr2Args, "substr({0},{1}+1,{2}-{1})"), (.locate, "locate({0},{1})"),
    (.stringIsEmpty, "length({0}) = 0"), (.any, "any {0}"), (.all, "all {0}"),
    (.existsRow, "exists {0}"), (.count, "count({0})"), (.countDistinct, "count(distinct {0})"),
    (.countAll, "count(*)"), (.sum, "sum({0})"), (.avg, "avg({0})"), (.min, "min({0})"),
    (.max, "max({0})"), (.currentDate, "current_date"), (.currentTime, "current_time"),
    (.currentTimestamp, "current_timestamp"), (.year, "year({0})"), (.month, "month({0})"),
    (.dayOfMonth, "day({0})"), (.hour, "hour({0})"), (.minute, "minute({0})"),
    (.second, "second({0})"), (.abs, "abs({0})"), (.sqrt, "sqrt({0})"), (.round, "round({0})"),
    (.ceil, "ceil({0})"), (.floor, "floor({0})"), (.power, "power({0},{1})"), (.ln, "ln({0})"),
    (.log, "log({1},{0})"), (.random, "random()"), (.cast, "cast({0} as {1s})"),
    (.stringCast, "cast({0} as varchar)"), (.case, "case {0} end"),
    (.caseWhen, "when {0} then {1} {2}"), (.caseElse, "else {0}"), (.caseEq, "case {0} {1} end"),
    (.caseEqWhen, "when {1} then {2} {3}"), (.caseEqElse, "else {0}"),
    (.coalesce, "coalesce({*})"), (.list, "{0}, {1}"), (.aliased, "{0} as {1}"),
    (.wrapped, "({0})")]

/-- Templates that embed the escape character. -/
def likeOps : List (Op × String) :=
  [(.like, "{0} like {1}"), (.startsWith, "{0} like {1%}"), (.startsWithIc, "{0l} like {1%%}"),
    (.endsWith, "{0} like {%1}"), (.endsWithIc, "{0l} like {%%1}"),
    (.stringContains, "{0} like {%1%}"), (.stringContainsIc, "{0l} like {%%1%%}")]

def jpqlOps : List (Op × String) :=
  [(.substr1Arg, "substring({0},{1}+1)"), (.substr2Args, "substring({0},{1}+1,{2}-{1})"),
    (.stringCast, "str({0})"), (.colIsEmpty, "{0} is empty"), (.colSize, "size({0})"),
    (.mapIsEmpty, "{0} is empty"), (.mapSize, "size({0})"), (.memberOf, "{0} member of {1}"),
    (.notMemberOf, "{0} not member of {1}"), (.instanceOf, "type({0}) = {1}"),
    (.typeOf, "type({0})"), (.avgInCol, "avg({0})"), (.maxInCol, "max({0})"),
    (.minInCol, "min({0})")]

def sqlOps : List (Op × String) :=
  [(.avgInCol, "avg({0})"), (.maxInCol, "max({0})"), (.minInCol, "min({0})")]

def registerBase (r : Registry) : Except Error Registry := do
  let r ← r.registerOps baseOps
  let r ← r.register (.path .root) "{0s}"
  r.register (.path .property) "{0}.{1s}"

/-- The LIKE templates with an escape character written behind them. -/
def likePatterns (escape : Char) : List (Op × String) :=
  let clause := " escape '" ++ escape.toString ++ "'"
  likeOps.map fun e ↦ (e.1, e.2 ++ clause)

def registerLike (r : Registry) (escape : Char) : Except Error Registry :=
  r.registerOps (likePatterns escape)

def registerFamily (r : Registry) : Family → Except Error Registry
  | .jpql => do
      let r ← (r.layer "jpql").registerOps jpqlOps
      r.registerWith (.op .concat) "concat({0},{1})" (-1)
  | .sql => (r.layer "sql").registerOps sqlOps

/-- The operators that every query may need. -/
def coreOperators : List Operator :=
  [.eq, .ne, .lt, .gt, .loe, .goe, .isIn, .notIn, .isNull, .isNotNull, .and, .or, .not, .like,
    .count, .countDistinct, .aliased, .list].map .op ++ [.path .root, .path .property]

end Registry

namespace Family

def escape : Family → Char
  | jpql => '!'
  | sql => '\\'

def placeholders : Family → PlaceholderStyle
  | jpql => .numbered '?'
  | sql => .anonymous

def listStyle : Family → ListStyle
  | jpql => .bare
  | sql => .expanded

def joinKeywords : Family → JoinKeywords
  | jpql => .indented
  | sql => .flat

def typeNames : Family → List (ValueType × String)
  | jpql => []
  | sql =>
      [(.bool, "boolean"), (.i8, "tinyint"), (.i16, "smallint"), (.i32, "integer"),
        (.i64, "bigint"), (.f32, "real"), (.f64, "double precision"), (.string, "varchar"),
        (.date, "date"), (.time, "time"), (.timestamp, "timestamp")]

end Family

namespace Dialect

/-- The templates and defaults of a family, with an empty layer of its own for the dialect. -/
def start (name : String) (family : Family) : Except Error Dialect := do
  let r ← (Registry.empty.layer "base").registerBase
  let r ← (r.layer "like").registerLike family.escape
  let r ← r.registerFamily family
  pure
    { name, family
      registry := r.layer name
      quote := none
      escape := family.escape
      listStyle := family.listStyle
      pagination := .external
      capabilities := {}
      existsProjection := none
      wrapElements := []
      typeNames := family.typeNames
      joinKeywords := family.joinKeywords
      placeholders := family.placeholders }

def withRegistry (d : Dialect) (registry : Except Error Registry) : Except Error Dialect :=
  registry.map fun r ↦ { d with registry := r }

def withCapabilities (d : Dialect) (change : Capabilities → Capabilities) : Dialect :=
  { d with capabilities := change d.capabilities }

/-- Applies one setting. A new escape character is written into the LIKE templates again. -/
def set (d : Dialect) : Setting → Except Error Dialect
  | .template operator pattern => d.withRegistry (d.registry.register operator pattern)
  | .templateAt precedence operator pattern =>
      d.withRegistry (d.registry.registerWith operator pattern precedence)
  | .custom name arity pattern precedence =>
      d.withRegistry (d.registry.registerCustom name arity pattern precedence)
  | .layer name => pure { d with registry := d.registry.layer name }
  | .quote c => pure { d with quote := some c }
  | .escape c => ({ d with escape := c } : Dialect).withRegistry (d.registry.registerLike c)
  | .placeholders style => pure { d with placeholders := style }
  | .listStyle style => pure { d with listStyle := style }
  | .pagination forms => do pure { d with pagination := ← forms.parse }
  | .typeAsString value => pure (d.withCapabilities ({ · with typeAsString := value }))
  | .withForOn value => pure (d.withCapabilities ({ · with withForOn := value }))
  | .pathInEntities value => pure (d.withCapabilities ({ · with pathInEntities := value }))
  | .enumInPath value => pure (d.withCapabilities ({ · with enumInPath := value }))
  | .nullsOrdering value => pure (d.withCapabilities ({ · with nullsOrdering := value }))
  | .nativeMerge value => pure (d.withCapabilities ({ · with nativeMerge := value }))
  | .existsProjection text => pure { d with existsProjection := some text }
  | .wrapElements ops => pure { d with wrapElements := d.wrapElements ++ ops }
  | .typeName t name =>
      pure { d with typeNames := (t, name) :: d.typeNames.filter (·.1 != t) }
  | .joinKeywords keywords => pure { d with joinKeywords := keywords }

/-- A dialect that has a template for every core operator. -/
def finished (d : Dialect) : Except Error Dialect := do
  d.registry.require d.name Registry.coreOperators
  pure d

/-- A dialect of a family with the given settings. -/
def build (name : String) (family : Family) (settings : List Setting) : Except Error Dialect := do
  let d ← settings.foldlM set (← start name family)
  d.finished

end Dialect

end TypedQuery
