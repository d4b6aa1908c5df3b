import TypedQuery.Query.Build

/-!
# Building a query call by call

A query is built by calls, one after the other. A call that goes to the last join fails when there
is none, and leaves the query as it was.
-/

namespace TypedQuery

/-- A call that builds a query up. -/
inductive QueryCall
  | join (kind : JoinKind) (target : Expr)
  | joinCondition (condition : Expr)
  | fetch
  | fetchAll
  | project (e : Expr)
  | projection (es : List Expr)
  | restrict (condition : Expr)
  | groupBy (e : Expr)
  | having (condition : Expr)
  | orderBy (key : OrderKey Expr)
  | unordered
  | modifiers (m : Modifiers)
  | limit (n : UInt64)
  | offset (n : UInt64)
  | distinct (value : Bool)
  | unique (value : Bool)
  | flag (flag : Flag Expr)
  | removeFlags (position : Position)
  | param (p : Param) (v : Value)

namespace QueryCall

def apply (q : Query Expr) : QueryCall → Except Error (Query Expr)
  | join kind target => pure (q.addJoin kind target)
  | joinCondition condition => q.addJoinCondition condition
  | fetch => q.addFetch
  | fetchAll => q.addFetchAll
  | project e => pure (q.addProjection e)
  | projection es => pure { q with projection := es }
  | restrict condition => pure (q.addWhere condition)
  | groupBy e => pure (q.addGroupBy e)
  | having condition => pure (q.addHaving condition)
  | orderBy key => pure (q.addOrderBy key)
  | unordered => pure { q with orderBy := [] }
  | modifiers m => pure { q with modifiers := m }
  | limit n => pure { q with modifiers.limit := some n }
  | offset n => pure { q with modifiers.offset := some n }
  | distinct value => pure { q with distinct := value }
  | unique value => pure { q with unique := value }
  | flag f => pure (q.addFlag f)
  | removeFlags position => pure (q.removeFlagsAt position)
  | param p v => pure (q.setParam p v)

/-- The source that a call adds. -/
def source? : QueryCall → Option (JoinKind × Expr)
  | join kind target => some (kind, target)
  | _ => none

end QueryCall

namespace Query

/-- A query after one more call. -/
def after (q : Query Expr) (call : QueryCall) : Query Expr := (call.apply q).toOption.getD q

/-- A query after calls, from the first to the last. -/
def afterAll (q : Query Expr) (calls : List QueryCall) : Query Expr := calls.foldl after q

end Query

end TypedQuery
