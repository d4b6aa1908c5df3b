import TypedQuery.Document.Filter

/-!
# Document queries

The filter, order, fields and limits of a query over one collection of documents. Joins are left
out.
-/

namespace TypedQuery

structure DocumentQuery where
  filter : Document
  sort : Option Document
  projection : Option Document
  limit : Option UInt64
  skip : Option UInt64

namespace DocumentStore

def directionNumber : Direction → Json
  | .ascending => .ofInt 1
  | .descending => .ofInt (-1)

/-- Members put into a document one after the other. -/
def collect {α : Type} (member : α → Except Error (String × Json)) (xs : List α) :
    Except Error Document :=
  Json.ofMembers <$> xs.mapM member

/-- One for ascending and minus one for descending keys. A repeated key keeps its place and takes
the later direction. -/
def sort (d : DocumentStore) (keys : List (OrderKey Expr)) : Except Error Document :=
  collect (fun k ↦ (d.pathKey k.target).map (·, directionNumber k.direction)) keys

def projection (d : DocumentStore) (es : List Expr) : Except Error Document :=
  collect (fun e ↦ (d.pathKey e).map (·, .ofInt 1)) es

def isRootPath : Expr → Bool
  | .path p => p.isRoot
  | _ => false

/-- A query without an order has no sort document, one for whole documents no projection. -/
def query (d : DocumentStore) (q : Query Expr) : Except Error DocumentQuery := do
  let filter ← match q.filter with
    | some e => d.filter e
    | none => pure []
  let sort ← if q.orderBy.isEmpty then pure none else some <$> d.sort q.orderBy
  let projection ←
    if q.projection.all isRootPath then pure none else some <$> d.projection q.projection
  pure { filter, sort, projection, limit := q.modifiers.limit, skip := q.modifiers.offset }

end DocumentStore

end TypedQuery
