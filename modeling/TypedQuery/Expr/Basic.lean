import TypedQuery.Expr.Factory
import TypedQuery.Query.Basic

/-!
# Expressions

Typed expression trees: constants, parameters, paths below a variable, operations, templates with
arguments, rows for a factory, and sub-queries. A sub-query is the same as another one exactly when
their identity numbers agree.
-/

namespace TypedQuery

/-- A value with the static type it is used at. -/
structure Constant where
  type : ValueType
  value : Value

mutual

inductive Expr
  | constant (c : Constant)
  | param (p : Param)
  | path (p : Path)
  | operation (type : ValueType) (operator : Operator) (args : List Expr)
  | subQuery (identity : Nat) (type : ValueType) (query : Query Expr)
  | factory (type : ValueType) (factory : Factory) (args : List Expr)
  | template (type : ValueType) (template : Template) (args : List Expr)

inductive Path
  | root (type : ValueType) (name : String)
  | property (type : ValueType) (parent : Path) (name : String)
  | listValue (type : ValueType) (parent : Path) (index : Expr)
  | listIndex (type : ValueType) (parent : Path) (index : UInt64)
  | mapValue (type : ValueType) (parent : Path) (key : Expr)
  | mapKey (type : ValueType) (parent : Path) (key : Value)
  | collectionAny (type : ValueType) (parent : Path)

end

namespace Path

def type : Path → ValueType
  | root type _ | property type _ _ | listValue type _ _ | listIndex type _ _
  | mapValue type _ _ | mapKey type _ _ | collectionAny type _ => type

def kind : Path → PathKind
  | root .. => .root
  | property .. => .property
  | listValue .. => .listValue
  | listIndex .. => .listIndex
  | mapValue .. => .mapValue
  | mapKey .. => .mapKey
  | collectionAny .. => .collectionAny

def parent? : Path → Option Path
  | root .. => none
  | property _ parent _ | listValue _ parent _ | listIndex _ parent _
  | mapValue _ parent _ | mapKey _ parent _ | collectionAny _ parent => some parent

/-- The name of a variable or a property. -/
def name? : Path → Option String
  | root _ name | property _ _ name => some name
  | _ => none

def isRoot : Path → Bool
  | root .. => true
  | _ => false

/-- The paths from a path up to its root, the path itself first. -/
def ancestry : Path → List Path
  | p@(root ..) => [p]
  | p@(property _ parent _) | p@(listValue _ parent _) | p@(listIndex _ parent _)
  | p@(mapValue _ parent _) | p@(mapKey _ parent _) | p@(collectionAny _ parent) =>
      p :: parent.ancestry

/-- The variable that a path starts from. -/
def rootOf : Path → Path
  | p@(root ..) => p
  | property _ parent _ | listValue _ parent _ | listIndex _ parent _
  | mapValue _ parent _ | mapKey _ parent _ | collectionAny _ parent => parent.rootOf

/-- The number of steps below the root. -/
def depth : Path → Nat
  | root .. => 0
  | property _ parent _ | listValue _ parent _ | listIndex _ parent _
  | mapValue _ parent _ | mapKey _ parent _ | collectionAny _ parent => parent.depth + 1

/-- A variable of an entity type. -/
def entity (typeName name : String) : Path := .root (.entity typeName) name

/-- Some element of a collection or some value of a map. -/
def any (p : Path) : Path := .collectionAny p.type.element p

end Path

namespace Constant

def eqv (a b : Constant) : Bool := a.type == b.type && a.value == b.value

/-- A value at its own type. -/
def ofValue (v : Value) : Constant := ⟨v.valueType, v⟩

end Constant

namespace Expr

def type : Expr → ValueType
  | constant c => c.type
  | param p => p.type
  | path p => p.type
  | operation type _ _ | subQuery _ type _ | factory type _ _ | template type _ _ => type

def value? : Expr → Option Value
  | constant c => some c.value
  | _ => none

def path? : Expr → Option Path
  | path p => some p
  | _ => none

def isConstant : Expr → Bool
  | constant _ => true
  | _ => false

def isFactory : Expr → Bool
  | factory .. => true
  | _ => false

def ofValue (v : Value) : Expr := .constant (.ofValue v)

end Expr

mutual

/-- Equality of expressions. -/
def Expr.eqv : Expr → Expr → Bool
  | .constant a, .constant b => a.eqv b
  | .param a, .param b => a == b
  | .path a, .path b => a.eqv b
  | .operation t o xs, .operation t' o' ys => t == t' && o == o' && eqvArgs xs ys
  | .subQuery i _ _, .subQuery j _ _ => i == j
  | .factory t f xs, .factory t' g ys => t == t' && f.name == g.name && eqvArgs xs ys
  | .template t u xs, .template t' u' ys => t == t' && u == u' && eqvArgs xs ys
  | _, _ => false

def Path.eqv : Path → Path → Bool
  | .root t n, .root t' n' => t == t' && n == n'
  | .property t p n, .property t' p' n' => t == t' && n == n' && p.eqv p'
  | .listValue t p i, .listValue t' p' j => t == t' && p.eqv p' && i.eqv j
  | .listIndex t p i, .listIndex t' p' j => t == t' && i == j && p.eqv p'
  | .mapValue t p k, .mapValue t' p' k' => t == t' && p.eqv p' && k.eqv k'
  | .mapKey t p k, .mapKey t' p' k' => t == t' && k == k' && p.eqv p'
  | .collectionAny t p, .collectionAny t' p' => t == t' && p.eqv p'
  | _, _ => false

def eqvArgs : List Expr → List Expr → Bool
  | [], [] => true
  | x :: xs, y :: ys => x.eqv y && eqvArgs xs ys
  | _, _ => false

end

instance : BEq Expr := ⟨Expr.eqv⟩

instance : BEq Path := ⟨Path.eqv⟩

namespace Path

/-- Whether a path equals another one or goes on from it. -/
def isRootedIn (p other : Path) : Bool := p.ancestry.any (· == other)

end Path

end TypedQuery
