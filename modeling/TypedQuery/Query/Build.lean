import TypedQuery.Expr.Build

/-!
# Building queries

Conditions added to one part of a query are joined by AND in the order they are added. A join
condition or a fetch flag goes to the last join of the list.
-/

namespace TypedQuery

namespace Query

/-- A further condition behind the ones already there. -/
def conjoin (existing : Option Expr) (condition : Expr) : Option Expr :=
  match existing with
  | none => some condition
  | some e => some (e.and condition)

def updateLastJoin (q : Query Expr) (change : Join Expr → Join Expr) :
    Except Error (Query Expr) :=
  match q.updateLastJoin? change with
  | some q => .ok q
  | none => .error .missingRoot

def addJoinCondition (q : Query Expr) (condition : Expr) : Except Error (Query Expr) :=
  q.updateLastJoin fun j ↦ { j with condition := conjoin j.condition condition }

def addFetch (q : Query Expr) : Except Error (Query Expr) :=
  q.updateLastJoin ({ · with fetch := true })

def addFetchAll (q : Query Expr) : Except Error (Query Expr) :=
  q.updateLastJoin ({ · with fetchAll := true })

def addWhere (q : Query Expr) (condition : Expr) : Query Expr :=
  { q with filter := conjoin q.filter condition }

def addHaving (q : Query Expr) (condition : Expr) : Query Expr :=
  { q with having := conjoin q.having condition }

end Query

end TypedQuery
