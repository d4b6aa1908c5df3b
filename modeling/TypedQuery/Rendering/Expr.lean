import TypedQuery.Rendering.Select

/-!
# Renderings of expressions

Every expression has an operand, made from the operands of its parts alone. Queries keep their
shape: each of their expressions is replaced by its operand.
-/

namespace TypedQuery

namespace Setup

mutual

def operand (s : Setup) : Expr → Operand
  | .constant c => s.constant c
  | .param p => param p
  | .path p => s.pathOperand p
  | .operation type operator args => s.operation type operator (s.operands args)
  | .subQuery identity type q =>
      let selected := s.queryOperands q
      .subQuery (.subQuery identity type q) (s.query selected false)
  | .factory type maker args => factory type maker (s.operands args)
  | .template type t args => s.template type t (s.operands args)

def pathOperand (s : Setup) : Path → Operand
  | .root type name => s.rootStep type name
  | .property type parent name => s.propertyStep type parent (s.pathOperand parent) name
  | .listValue type parent index =>
      s.step (.listValue type parent index) [s.pathOperand parent, s.operand index]
  | .listIndex type parent index =>
      s.step (.listIndex type parent index) [s.pathOperand parent, s.count index]
  | .mapValue type parent key =>
      s.step (.mapValue type parent key) [s.pathOperand parent, s.operand key]
  | .mapKey type parent key =>
      s.step (.mapKey type parent key) [s.pathOperand parent, s.value key]
  | .collectionAny type parent => s.step (.collectionAny type parent) [s.pathOperand parent]

def operands (s : Setup) : List Expr → List Operand
  | [] => []
  | e :: es => s.operand e :: s.operands es

def operand? (s : Setup) : Option Expr → Option Operand
  | none => none
  | some e => some (s.operand e)

def joinOperands (s : Setup) : List (Join Expr) → List (Join Operand)
  | [] => []
  | ⟨kind, target, condition, fetch, fetchAll⟩ :: joins =>
      ⟨kind, s.operand target, s.operand? condition, fetch, fetchAll⟩ :: s.joinOperands joins

def orderOperands (s : Setup) : List (OrderKey Expr) → List (OrderKey Operand)
  | [] => []
  | ⟨target, direction, nulls⟩ :: keys =>
      ⟨s.operand target, direction, nulls⟩ :: s.orderOperands keys

def flagOperands (s : Setup) : List (Flag Expr) → List (Flag Operand)
  | [] => []
  | ⟨position, .text text⟩ :: flags => ⟨position, .text text⟩ :: s.flagOperands flags
  | ⟨position, .expr e⟩ :: flags => ⟨position, .expr (s.operand e)⟩ :: s.flagOperands flags

/-- A query over the operands of its expressions. -/
def queryOperands (s : Setup) : Query Expr → Query Operand
  | ⟨projection, joins, filter, groupBy, having, orderBy, modifiers, distinct, unique, flags,
      params⟩ =>
      { projection := s.operands projection
        joins := s.joinOperands joins
        filter := s.operand? filter
        groupBy := s.operands groupBy
        having := s.operand? having
        orderBy := s.orderOperands orderBy
        modifiers, distinct, unique
        flags := s.flagOperands flags
        params }

end

@[simp] theorem operands_eq_map (s : Setup) (es : List Expr) :
    s.operands es = es.map s.operand := by
  induction es with
  | nil => rfl
  | cons e es ih => simp [operands, ih]

@[simp] theorem operand?_eq_map (s : Setup) (e : Option Expr) :
    s.operand? e = e.map s.operand := by
  cases e <;> rfl

/-- The rendering of an expression. -/
def expr (s : Setup) (e : Expr) : Rendering := (s.operand e).render

end Setup

end TypedQuery
