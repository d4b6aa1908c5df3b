import TypedQuery.Layout
import TypedQuery.Rendering.DataChange

/-!
# Statements

A serializer turns queries and expressions into statements of one dialect: the text, what its
placeholders stand for, and the limits that are left to whoever runs it.
-/

namespace TypedQuery

structure Statement where
  text : String
  bindings : List Binding
  modifiers : Modifiers

namespace Statement

/-- The bound constants in the order of placeholders. -/
def constants (s : Statement) : List Value :=
  s.bindings.filterMap fun b ↦
    match b with
    | .value v => some v
    | .param _ => none

/-- The value of each binding, parameters taken from a list of values. -/
def bind (s : Statement) (params : List (Param × Value)) : Except Error (List Value) :=
  s.bindings.mapM fun b ↦
    match b with
    | .value v => .ok v
    | .param p =>
        match params.lookup p with
        | some v => .ok v
        | none => .error (.unboundParam p.name)

end Statement

/-- All that a serializer can be asked for. -/
inductive Request
  | query (q : Query Expr) (forCount : Bool) (projection : Option String)
  | expr (e : Expr)
  | delete (q : Query Expr)
  | update (q : Query Expr) (assignments : List (Path × Expr))
  | insert (root : Path) (columns : List Path) (source : RowSource)
  | merge (root : Path) (keys columns : List Path) (source : RowSource)

namespace Request

def rendering (s : Setup) : Request → Rendering
  | query q forCount projection => s.query (s.queryOperands q) forCount projection
  | expr e => s.expr e
  | delete q => s.delete q
  | update q assignments => s.update q assignments
  | insert root columns source => s.insert root columns source
  | merge root keys columns source => s.merge root keys columns source

/-- The limits that are left to whoever runs the statement. -/
def modifiers : Request → Modifiers
  | query q _ _ => q.modifiers
  | _ => {}

end Request

structure Serializer where
  dialect : Dialect
  metamodel : Metamodel := {}
  /-- How identifiers are read from entity values, if they are. -/
  identify : Option (Value → Option Value) := none

namespace Serializer

def setup (s : Serializer) : Setup :=
  { profile := s.dialect.toProfile, metamodel := s.metamodel, identify := s.identify }

/-- The statement that a rendering writes outside of everything else. -/
def statement (s : Serializer) (modifiers : Modifiers) (r : Rendering) :
    Except Error Statement :=
  (r {}).map fun chunks ↦
    let (text, bindings) := layout s.dialect.placeholders chunks
    { text, bindings, modifiers }

/-- A select, or a count over the same sources. A text in `projection` replaces the projection. -/
def query (s : Serializer) (q : Query Expr) (forCount : Bool) (projection : Option String) :
    Except Error Statement :=
  s.statement q.modifiers (s.setup.query (s.setup.queryOperands q) forCount projection)

def expr (s : Serializer) (e : Expr) : Except Error Statement :=
  s.statement {} (s.setup.expr e)

def delete (s : Serializer) (q : Query Expr) : Except Error Statement :=
  s.statement {} (s.setup.delete q)

def update (s : Serializer) (q : Query Expr) (assignments : List (Path × Expr)) :
    Except Error Statement :=
  s.statement {} (s.setup.update q assignments)

def insert (s : Serializer) (root : Path) (columns : List Path) (source : RowSource) :
    Except Error Statement :=
  s.statement {} (s.setup.insert root columns source)

def merge (s : Serializer) (root : Path) (keys columns : List Path) (source : RowSource) :
    Except Error Statement :=
  s.statement {} (s.setup.merge root keys columns source)

def serialize (s : Serializer) : Request → Except Error Statement
  | .query q forCount projection => s.query q forCount projection
  | .expr e => s.expr e
  | .delete q => s.delete q
  | .update q assignments => s.update q assignments
  | .insert root columns source => s.insert root columns source
  | .merge root keys columns source => s.merge root keys columns source

theorem serialize_eq (s : Serializer) (r : Request) :
    s.serialize r = s.statement r.modifiers (r.rendering s.setup) := by
  cases r <;> rfl

end Serializer

end TypedQuery
