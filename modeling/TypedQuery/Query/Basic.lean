import TypedQuery.Value.Basic

/-!
# Queries

The parts of a query over expressions of some kind `ε`, and the operations that build it up. Sources
separated by commas come before the explicit joins that may depend on them.
-/

namespace TypedQuery

/-- A named value that is supplied when a statement is run. -/
structure Param where
  type : ValueType
  name : String
deriving DecidableEq, Repr

/-- How a source enters the query: as an entry of the source list or by an explicit join. -/
inductive JoinKind
  | listed
  | inner
  | left
  | right
  | full
deriving DecidableEq, Repr

structure Join (ε : Type) where
  kind : JoinKind
  target : ε
  condition : Option ε := none
  fetch : Bool := false
  fetchAll : Bool := false

inductive Direction
  | ascending
  | descending
deriving DecidableEq, Repr

inductive NullsPlace
  | unstated
  | first
  | last
deriving DecidableEq, Repr

structure OrderKey (ε : Type) where
  target : ε
  direction : Direction
  nulls : NullsPlace := .unstated

/-- The places of a statement that flags are written at. -/
inductive Position
  | start
  /-- In place of the word `select`. -/
  | startOverride
  | afterSelect
  | afterProjection
  | beforeFilters
  | afterFilters
  | beforeGroupBy
  | afterGroupBy
  | beforeHaving
  | afterHaving
  | beforeOrder
  | afterOrder
  | finish
deriving DecidableEq, Repr

inductive FlagContent (ε : Type)
  | text (s : String)
  | expr (e : ε)

/-- Text or an expression that is added to a statement at a place. -/
structure Flag (ε : Type) where
  position : Position
  content : FlagContent ε

structure Modifiers where
  limit : Option UInt64 := none
  offset : Option UInt64 := none
deriving DecidableEq, Repr

def Modifiers.isRestricting (m : Modifiers) : Bool := m.limit.isSome || m.offset.isSome

structure Query (ε : Type) where
  projection : List ε := []
  joins : List (Join ε) := []
  filter : Option ε := none
  groupBy : List ε := []
  having : Option ε := none
  orderBy : List (OrderKey ε) := []
  modifiers : Modifiers := {}
  distinct : Bool := false
  unique : Bool := false
  flags : List (Flag ε) := []
  params : List (Param × Value) := []

namespace FlagContent

variable {ε : Type}

def eqv [BEq ε] : FlagContent ε → FlagContent ε → Bool
  | .text s, .text t => s == t
  | .expr e, .expr f => e == f
  | _, _ => false

end FlagContent

namespace Query

variable {ε : Type}

/-- Adds a source: a listed one behind the last listed one, a joined one at the end. -/
def addJoin (q : Query ε) (kind : JoinKind) (target : ε) : Query ε :=
  let join : Join ε := { kind, target }
  match kind with
  | .listed =>
      let later := q.joins.reverse.takeWhile (·.kind != .listed)
      let upTo := q.joins.reverse.dropWhile (·.kind != .listed)
      { q with joins := upTo.reverse ++ join :: later.reverse }
  | _ => { q with joins := q.joins ++ [join] }

/-- Changes the join at the end of the list, if there is one. -/
def updateLastJoin? (q : Query ε) (change : Join ε → Join ε) : Option (Query ε) :=
  match q.joins.reverse with
  | [] => none
  | last :: before => some { q with joins := before.reverse ++ [change last] }

def addProjection (q : Query ε) (e : ε) : Query ε := { q with projection := q.projection ++ [e] }

def addGroupBy (q : Query ε) (e : ε) : Query ε := { q with groupBy := q.groupBy ++ [e] }

def addOrderBy (q : Query ε) (key : OrderKey ε) : Query ε :=
  { q with orderBy := q.orderBy ++ [key] }

/-- Adds a flag unless an equal one is there already. -/
def addFlag [BEq ε] (q : Query ε) (flag : Flag ε) : Query ε :=
  if q.flags.any fun f ↦ f.position == flag.position && f.content.eqv flag.content then q
  else { q with flags := q.flags ++ [flag] }

def flagsAt (q : Query ε) (position : Position) : List (Flag ε) :=
  q.flags.filter (·.position == position)

def removeFlagsAt (q : Query ε) (position : Position) : Query ε :=
  { q with flags := q.flags.filter (·.position != position) }

/-- Gives a parameter a value; a known parameter keeps its place. -/
def setParam (q : Query ε) (param : Param) (value : Value) : Query ε :=
  { q with params := go q.params }
where
  go : List (Param × Value) → List (Param × Value)
    | [] => [(param, value)]
    | (p, v) :: rest => if p = param then (p, value) :: rest else (p, v) :: go rest

end Query

end TypedQuery
