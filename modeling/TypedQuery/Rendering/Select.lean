import TypedQuery.Rendering.Operation

/-!
# Selects

A select over queries whose expressions are operands. It is written clause by clause, with the flags
of the query at their places, and with its limits in the form of the dialect.
-/

namespace TypedQuery

namespace Flag

def render (flag : Flag Operand) : Rendering :=
  match flag.content with
  | .text s => .text s
  | .expr e => e.render

end Flag

namespace Query

/-- The flags of a place, one behind the other. -/
def flagText (q : Query Operand) (position : Position) : Rendering :=
  .concat ((q.flagsAt position).map Flag.render)

def items (es : List Operand) : Rendering := .commas (es.map Operand.render)

end Query

namespace JoinKeywords

def keyword (k : JoinKeywords) : JoinKind → String
  | .listed => k.listed
  | .inner => k.inner
  | .left => k.left
  | .right => k.right
  | .full => k.full

end JoinKeywords

namespace OrderKey

/-- What follows the target of an order key. -/
def directionText (nullsOrdering : Bool) {ε : Type} (key : OrderKey ε) : String :=
  let direction := match key.direction with
    | .ascending => " asc"
    | .descending => " desc"
  let nulls := match nullsOrdering, key.nulls with
    | true, .first => " nulls first"
    | true, .last => " nulls last"
    | _, _ => ""
  direction ++ nulls

end OrderKey

namespace Setup

/-! ## Sources -/

/-- The table of an entity type, quoted part by part. -/
def table (s : Setup) (t : ValueType) : String :=
  let info := (s.metamodel.entity? t).getD {}
  s.profile.quoteTable ((info.table.or info.name).getD t.simpleName)

/-- The name of an entity type in the source list. -/
def entityName (s : Setup) (t : ValueType) : String :=
  match s.profile.family with
  | .jpql => ((s.metamodel.entity? t).bind EntityInfo.name).getD t.simpleName
  | .sql => s.table t

/-- A source, behind the name of its type when it is an entity variable. -/
def source (s : Setup) (target : Operand) : Rendering :=
  match target.path? with
  | some p =>
      if p.isRoot && p.type.isEntity then .text (s.entityName p.type ++ " ") ++ target.render
      else target.render
  | none => target.render

/-- A join behind its keyword. Only the object query languages fetch, and counts never do. -/
def joined (s : Setup) (forCount : Bool) (j : Join Operand) : Rendering :=
  let fetches := s.profile.family == .jpql && !forCount
  let condition := match j.condition with
    | some c =>
        .text (if s.profile.capabilities.withForOn then " with " else " on ") ++ c.render
    | none => .empty
  .text (if fetches && j.fetch then "fetch " else "") ++ s.source j.target ++
    .text (if fetches && j.fetchAll then " fetch all properties" else "") ++ condition

def sources (s : Setup) (forCount : Bool) : List (Join Operand) → Rendering
  | [] => .empty
  | first :: others =>
      s.joined forCount first ++ .concat (others.map fun j ↦
        .text (s.profile.joinKeywords.keyword j.kind) ++ s.joined forCount j)

/-! ## Order and limits -/

def orderKey (s : Setup) (key : OrderKey Operand) : Rendering :=
  key.target.render ++ .text (key.directionText s.profile.capabilities.nullsOrdering)

/-- The limit clauses of dialects that write them behind a query. -/
def limits (s : Setup) (m : Modifiers) : Rendering :=
  match s.profile.pagination with
  | .limitOffset forms | .fetchFirst forms =>
      match m.limit, m.offset with
      | some limit, none => s.apply forms.limit (-1) [s.count limit]
      | none, some offset => s.apply forms.offset (-1) [s.count offset]
      | some limit, some offset => s.apply forms.both (-1) [s.count limit, s.count offset]
      | none, none => .empty
  | _ => .empty

/-! ## The select -/

/-- What a count counts: the first source of a query for rows in the object query languages, all
rows of a query without a projection in SQL, else the projection. -/
def countTarget (s : Setup) (q : Query Operand) : Rendering :=
  match s.profile.family, q.projection with
  | .sql, [] => .text "*"
  | .sql, es => Query.items es
  | .jpql, es =>
      if es.head?.all (·.expr.isFactory) then
        match q.joins with
        | [] => .fail .missingRoot
        | j :: _ => j.target.render
      else Query.items es

/-- The word `select` or what stands in its place. -/
def selectWord (q : Query Operand) : Rendering :=
  if (q.flagsAt .startOverride).isEmpty then
    .text (if q.distinct then "select distinct " else "select ")
  else q.flagText .startOverride

/-- The projection; without one, all columns in SQL and the first source elsewhere. -/
def projected (s : Setup) (q : Query Operand) : Rendering :=
  match q.projection, s.profile.family, q.joins with
  | [], .sql, _ => .text "*"
  | [], .jpql, [] => .fail .missingRoot
  | [], .jpql, j :: _ => j.target.render
  | es, _, _ => Query.items es

/-- The select clause, with a text in place of the projection if one is given. -/
def head (s : Setup) (q : Query Operand) (forCount : Bool) (projection : Option String) :
    Rendering :=
  match projection, forCount with
  | some text, _ => .text ("select " ++ text)
  | none, true =>
      (s.countTarget q).between (if q.distinct then "select count(distinct " else "select count(")
        ")"
  | none, false => selectWord q ++ q.flagText .afterSelect ++ s.projected q

/-- A clause behind its keyword, left out when it has no content. -/
def clause (keyword : String) : Option Rendering → Rendering
  | some r => .text keyword ++ r
  | none => .empty

def listClause (keyword separator : String) (rs : List Rendering) : Rendering :=
  if rs.isEmpty then .empty else .text keyword ++ .separated separator rs

/-- The clauses behind the projection. -/
def clauses (s : Setup) (q : Query Operand) (forCount : Bool) : Rendering :=
  .concat
    [clause "\nfrom " (if q.joins.isEmpty then none else some (s.sources forCount q.joins)),
      q.flagText .beforeFilters,
      clause "\nwhere " (q.filter.map Operand.render),
      q.flagText .afterFilters,
      q.flagText .beforeGroupBy,
      listClause "\ngroup by " ", " (q.groupBy.map Operand.render),
      q.flagText .afterGroupBy,
      q.flagText .beforeHaving,
      clause "\nhaving " (q.having.map Operand.render),
      q.flagText .afterHaving]

/-- Order and limits, which a count leaves out. -/
def ordering (s : Setup) (q : Query Operand) : Rendering :=
  .concat
    [q.flagText .beforeOrder,
      listClause "\norder by " ", " (q.orderBy.map s.orderKey),
      q.flagText .afterOrder,
      s.limits q.modifiers]

/-- A select without numbered rows. A query stands outside of any operator around it; its projection
is the only part that stands in a projection. -/
def select (s : Setup) (q : Query Operand) (forCount : Bool) (projection : Option String) :
    Rendering :=
  if s.profile.family == .jpql && q.joins.isEmpty then .fail .missingRoot
  else
    (q.flagText .start).within ({ · with wrapElements := false }) ++
      (s.head q forCount projection ++ q.flagText .afterProjection).within
        (fun _ ↦ ⟨true, false⟩) ++
      (s.clauses q forCount ++ (if forCount then .empty else s.ordering q) ++
        q.flagText .finish).within (fun _ ↦ ⟨false, false⟩)

/-! ## Numbered rows -/

/-- The elements for the order keys from argument `index` on, the first behind the text `before`. -/
def numberingElements (nullsOrdering : Bool) (index : Nat) (before : String) :
    List (OrderKey Operand) → List Element
  | [] => [.text (before ++ ")")]
  | key :: keys =>
      let direction := key.directionText nullsOrdering
      .text before :: .arg index :: numberingElements nullsOrdering (index + 1)
        (if keys.isEmpty then direction else direction ++ ", ") keys

/-- The number of a row in the order of a query. -/
def rowNumber (s : Setup) (orderBy : List (OrderKey Operand)) : Operand :=
  let start := if orderBy.isEmpty then "row_number() over (" else "row_number() over (order by "
  s.template .i64
    (.ofElements (numberingElements s.profile.capabilities.nullsOrdering 0 start orderBy))
    (orderBy.map OrderKey.target)

/-- The column `row_number` behind a projection. -/
def rowNumberColumn (s : Setup) (orderBy : List (OrderKey Operand)) : Operand :=
  let name := s.rootStep .i64 "row_number"
  s.template .i64 (.ofElements [.text ", ", .arg 0])
    [s.operation .i64 (.op .aliased) [s.rowNumber orderBy, name]]

/-- The sum of two counts, cut off at the largest one. -/
def cappedSum (a b : UInt64) : UInt64 := .ofNat (min (a.toNat + b.toNat) (UInt64.size - 1))

/-- A limit alone is written behind the word `select`; an offset numbers the rows of the query and
selects from them. Flags at the end stay at the end of the whole. -/
def rowNumbered (s : Setup) (top : Template) (forms : LimitForms Template) (q : Query Operand)
    (projection : Option String) : Rendering :=
  let inner := { q.removeFlagsAt .finish with modifiers := {} }
  let body := match q.modifiers.limit, q.modifiers.offset with
    | some limit, none =>
        let word := s.template .i64 top [s.count limit]
        s.select (inner.addFlag ⟨.afterSelect, .expr word⟩) false projection
    | limit, some offset =>
        let column := s.rowNumberColumn q.orderBy
        let numbered :=
          { inner.addFlag ⟨.afterProjection, .expr column⟩ with orderBy := [] }
        let window := match limit with
          | some limit =>
              s.apply forms.both (-1) [s.count offset, s.count (cappedSum offset limit)]
          | none => s.apply forms.offset (-1) [s.count offset]
        .text "with inner_query as \n(\n  " ++ s.select numbered false projection ++
          .text "\n)\nselect * \nfrom inner_query\nwhere " ++ window
    | none, none => s.select inner false projection
  body ++ q.flagText .finish

/-- A query as a statement or as the content of a sub-query. -/
def query (s : Setup) (q : Query Operand) (forCount : Bool) (projection : Option String) :
    Rendering :=
  match s.profile.pagination with
  | .topRowNumber top forms =>
      if !forCount && !q.joins.isEmpty && q.modifiers.isRestricting then
        s.rowNumbered top forms q projection
      else s.select q forCount projection
  | _ => s.select q forCount projection

end Setup

end TypedQuery
