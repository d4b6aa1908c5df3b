import TypedQuery.Dialect.Settings

/-!
# Known dialects

The settings by which the known query languages differ from the defaults of their families.
-/

namespace TypedQuery

namespace Setting

/-- A template for a built-in operator, at the precedence of the operator. -/
def op (o : Op) (pattern : String) : Setting := .template (.op o) pattern

/-- A template for a built-in operator, at a precedence of its own. -/
def opAt (precedence : Int) (o : Op) (pattern : String) : Setting :=
  .templateAt precedence (.op o) pattern

/-- Clauses behind the query, the limit before the offset. -/
def limitClauses : Setting :=
  .pagination (.limitOffset ⟨"\nlimit {0}", "\noffset {0}", "\nlimit {0}\noffset {1}"⟩)

def hql : List Setting :=
  [op .instanceOf "{0}.class = {1}",
    op .typeOf "{0}.class",
    op .memberOf "{0} in elements({1})",
    op .notMemberOf "{0} not in elements({1})",
    op .containsKey "{1} in indices({0})",
    op .containsValue "{1} in elements({0})",
    .template (.path .listValue) "{0}[{1}]",
    .template (.path .mapValue) "{0}[{1}]",
    .template (.path .mapKey) "{0}[{1}]",
    .template (.path .listIndex) "{0}[{1s}]",
    .template (.path .collectionAny) "any elements({0})",
    .wrapElements [.all, .any, .avgInCol, .existsRow],
    .typeAsString true,
    .existsProjection "1",
    .enumInPath false,
    .listStyle .wrapped,
    .withForOn true]

def postgres : List Setting :=
  [.quote '"',
    .placeholders (.numbered '$'),
    limitClauses,
    .typeName .i8 "smallint",
    op .locate "strpos({1},{0})",
    op .matchesRegex "{0} ~ {1}",
    op .matchesRegexIc "{0} ~* {1}",
    op .year "extract(year from {0})",
    op .month "extract(month from {0})",
    op .dayOfMonth "extract(day from {0})",
    op .hour "extract(hour from {0})",
    op .minute "extract(minute from {0})",
    op .second "extract(second from {0})",
    opAt 13 .addDays "{0} + {1} * interval '1 day'",
    opAt 13 .addMonths "{0} + {1} * interval '1 month'",
    opAt 13 .addYears "{0} + {1} * interval '1 year'",
    op .diffDays "date_part('day', {1} - {0})",
    op .nextval "nextval('{0s}')"]

def mysql : List Setting :=
  [.quote '\x60',
    .escape '!',
    .nullsOrdering false,
    limitClauses,
    .typeName .i8 "signed",
    .typeName .i16 "signed",
    .typeName .i32 "signed",
    .typeName .i64 "signed",
    .typeName .f32 "float",
    .typeName .f64 "double",
    .typeName .string "char",
    .typeName .timestamp "datetime",
    opAt (-1) .concat "concat({0},{1})",
    op .stringCast "cast({0} as char)",
    op .matchesRegex "{0} regexp {1}",
    op .random "rand()",
    op .addDays "date_add({0}, interval {1} day)",
    op .addMonths "date_add({0}, interval {1} month)",
    op .addYears "date_add({0}, interval {1} year)",
    op .diffDays "datediff({1},{0})"]

def sqlite : List Setting :=
  [.quote '"',
    limitClauses,
    .typeName .i8 "integer",
    .typeName .i16 "integer",
    .typeName .i64 "integer",
    .typeName .f32 "real",
    .typeName .f64 "real",
    .typeName .string "text",
    op .stringCast "cast({0} as text)",
    opAt 12 .mod "{0} % {1}",
    op .locate "instr({1},{0})",
    op .matchesRegex "{0} regexp {1}",
    op .year "cast(strftime('%Y',{0}) as integer)",
    op .month "cast(strftime('%m',{0}) as integer)",
    op .dayOfMonth "cast(strftime('%d',{0}) as integer)",
    op .hour "cast(strftime('%H',{0}) as integer)",
    op .minute "cast(strftime('%M',{0}) as integer)",
    op .second "cast(strftime('%S',{0}) as integer)",
    op .addDays "date({0}, '+' || {1} || ' days')",
    op .addMonths "date({0}, '+' || {1} || ' months')",
    op .addYears "date({0}, '+' || {1} || ' years')",
    opAt 13 .diffDays "julianday({1}) - julianday({0})"]

def h2 : List Setting :=
  [.nativeMerge true,
    limitClauses,
    .typeName .f64 "double",
    op .matchesRegex "{0} regexp {1}",
    op .random "rand()",
    op .addDays "dateadd('day', {1}, {0})",
    op .addMonths "dateadd('month', {1}, {0})",
    op .addYears "dateadd('year', {1}, {0})",
    op .diffDays "datediff('day',{0},{1})",
    op .nextval "{0s}.nextval"]

/-- A function call between the braces that mark it for the driver. -/
def bracedCall (call : String) : String := "\x7b\x7bfn " ++ call ++ "\x7d\x7d"

def derby : List Setting :=
  [.pagination (.fetchFirst ⟨"\nfetch first {0s} rows only", "\noffset {0s} rows",
      "\noffset {1s} rows fetch next {0s} rows only"⟩),
    .typeName .i8 "smallint",
    .typeName .f64 "double",
    opAt (-1) .concat "varchar({0} || {1})",
    op .nextval "next value for {0s}",
    op .caseEq "case {1} end",
    op .caseEqWhen "when {0} = {1} then {2} {3}",
    op .round "floor({0})",
    op .power "exp({1} * log({0}))",
    op .ln "log({0})",
    op .log "(log({0}) / log({1}))",
    op .addDays (bracedCall "timestampadd(SQL_TSI_DAY, {1}, {0})"),
    op .addMonths (bracedCall "timestampadd(SQL_TSI_MONTH, {1}, {0})"),
    op .addYears (bracedCall "timestampadd(SQL_TSI_YEAR, {1}, {0})"),
    op .diffDays (bracedCall "timestampdiff(SQL_TSI_DAY, {0}, {1})")]

def sqlServer2005 : List Setting :=
  [.nullsOrdering false,
    .pagination (.topRowNumber "top ({0}) " ⟨"row_number <= {0}", "row_number > {0}",
      "row_number > {0} and row_number <= {1}"⟩),
    .typeName .bool "bit",
    .typeName .f64 "float",
    .typeName .timestamp "datetime",
    opAt 13 .concat "{0} + {1}",
    opAt 12 .mod "{0} % {1}",
    op .length "len({0})",
    op .substr1Arg "substring({0},{1}+1,len({0}))",
    op .substr2Args "substring({0},{1}+1,{2}-{1})",
    op .locate "charindex({0},{1})",
    op .random "rand()",
    op .ceil "ceiling({0})",
    op .ln "log({0})",
    op .log "log({0},{1})",
    op .year "datepart(year,{0})",
    op .month "datepart(month,{0})",
    op .dayOfMonth "datepart(day,{0})",
    op .hour "datepart(hour,{0})",
    op .minute "datepart(minute,{0})",
    op .second "datepart(second,{0})",
    op .addDays "dateadd(day, {1}, {0})",
    op .addMonths "dateadd(month, {1}, {0})",
    op .addYears "dateadd(year, {1}, {0})",
    op .diffDays "datediff(day,{0},{1})",
    op .nextval "{0s}.nextval"]

end Setting

namespace Dialect

def jpql : Except Error Dialect := build "jpql" .jpql []

def hql : Except Error Dialect := build "hql" .jpql Setting.hql

def postgres : Except Error Dialect := build "postgres" .sql Setting.postgres

def mysql : Except Error Dialect := build "mysql" .sql Setting.mysql

def sqlite : Except Error Dialect := build "sqlite" .sql Setting.sqlite

def h2 : Except Error Dialect := build "h2" .sql Setting.h2

def derby : Except Error Dialect := build "derby" .sql Setting.derby

def sqlServer2005 : Except Error Dialect := build "sql_server_2005" .sql Setting.sqlServer2005

/-- The known dialects by name. -/
def known : List (String × Except Error Dialect) :=
  [("jpql", jpql), ("hql", hql), ("postgres", postgres), ("mysql", mysql), ("sqlite", sqlite),
    ("h2", h2), ("derby", derby), ("sql_server_2005", sqlServer2005)]

end Dialect

end TypedQuery
