import TypedQuery.Statement

/-!
# Masked strings

Requests that differ only in the contents of their string constants are the same once these are
masked. A request is guarded when no constant can get into its text: none of its templates writes a
constant out, and its flags are plain text.
-/

namespace TypedQuery

/-! ## Masking -/

namespace Value

mutual

/-- A value without the contents of its strings. -/
def masked : Value → Value
  | string _ => string ""
  | entity typeName fields => entity typeName (maskedFields fields)
  | list items => list (maskedItems items)
  | tuple items => tuple (maskedItems items)
  | v => v

def maskedItems : List Value → List Value
  | [] => []
  | v :: vs => masked v :: maskedItems vs

def maskedFields : List (String × Value) → List (String × Value)
  | [] => []
  | (name, v) :: fields => (name, masked v) :: maskedFields fields

end

@[simp] theorem length_maskedItems (vs : List Value) : (maskedItems vs).length = vs.length := by
  induction vs with
  | nil => rfl
  | cons v vs ih => simp [maskedItems, ih]

end Value

def Constant.masked (c : Constant) : Constant := ⟨c.type, c.value.masked⟩

mutual

/-- An expression without the contents of its string constants. -/
def Expr.masked : Expr → Expr
  | .constant c => .constant c.masked
  | .param p => .param p
  | .path p => .path p.masked
  | .operation type operator args => .operation type operator (maskedExprs args)
  | .subQuery identity type q => .subQuery identity type q.masked
  | .factory type maker args => .factory type maker (maskedExprs args)
  | .template type t args => .template type t (maskedExprs args)

def Path.masked : Path → Path
  | .root type name => .root type name
  | .property type parent name => .property type parent.masked name
  | .listValue type parent index => .listValue type parent.masked index.masked
  | .listIndex type parent index => .listIndex type parent.masked index
  | .mapValue type parent key => .mapValue type parent.masked key.masked
  | .mapKey type parent key => .mapKey type parent.masked key.masked
  | .collectionAny type parent => .collectionAny type parent.masked

def maskedExprs : List Expr → List Expr
  | [] => []
  | e :: es => e.masked :: maskedExprs es

def maskedExpr? : Option Expr → Option Expr
  | none => none
  | some e => some e.masked

def maskedJoins : List (Join Expr) → List (Join Expr)
  | [] => []
  | ⟨kind, target, condition, fetch, fetchAll⟩ :: joins =>
      ⟨kind, target.masked, maskedExpr? condition, fetch, fetchAll⟩ :: maskedJoins joins

def maskedKeys : List (OrderKey Expr) → List (OrderKey Expr)
  | [] => []
  | ⟨target, direction, nulls⟩ :: keys => ⟨target.masked, direction, nulls⟩ :: maskedKeys keys

/-- A query without the contents of its string constants; its flags are kept. -/
def Query.masked : Query Expr → Query Expr
  | ⟨projection, joins, filter, groupBy, having, orderBy, modifiers, distinct, unique, flags,
      params⟩ =>
      { projection := maskedExprs projection
        joins := maskedJoins joins
        filter := maskedExpr? filter
        groupBy := maskedExprs groupBy
        having := maskedExpr? having
        orderBy := maskedKeys orderBy
        modifiers, distinct, unique, flags
        params := params.map fun p ↦ (p.1, p.2.masked) }

end

@[simp] theorem maskedExprs_eq_map (es : List Expr) : maskedExprs es = es.map Expr.masked := by
  induction es with
  | nil => rfl
  | cons e es ih => simp [maskedExprs, ih]

@[simp] theorem maskedExpr?_eq_map (e : Option Expr) : maskedExpr? e = e.map Expr.masked := by
  cases e <;> rfl

namespace RowSource

def masked : RowSource → RowSource
  | rows rs => .rows (rs.map (List.map Expr.masked))
  | query q => .query q.masked

end RowSource

namespace Request

/-- A request without the contents of its string constants. -/
def masked : Request → Request
  | query q forCount projection => query q.masked forCount projection
  | expr e => expr e.masked
  | delete q => delete q.masked
  | update q assignments =>
      update q.masked (assignments.map fun a ↦ (a.1.masked, a.2.masked))
  | insert root columns source =>
      insert root.masked (columns.map Path.masked) source.masked
  | merge root keys columns source =>
      merge root.masked (keys.map Path.masked) (columns.map Path.masked) source.masked

end Request

/-! ## Guarded requests -/

namespace Element

/-- Whether a slot writes a constant out instead of binding it. -/
def writesOut : Element → Bool
  | inlined _ => true
  | _ => false

end Element

/-- Whether a template binds every constant among its arguments. -/
def Template.bindsAll (t : Template) : Bool := t.elements.all (!·.writesOut)

/-- Whether the active template of an operator, if it has one, binds every constant. -/
def Registry.bindsAll (r : Registry) (operator : Operator) : Bool :=
  (r.get? operator).all (·.template.bindsAll)

def Flag.isText {ε : Type} (flag : Flag ε) : Bool :=
  match flag.content with
  | .text _ => true
  | .expr _ => false

mutual

/-- Whether no operation and no template of an expression writes a constant out. -/
def Expr.isGuarded (r : Registry) : Expr → Bool
  | .constant _ | .param _ => true
  | .path p => p.isGuarded r
  | .operation _ operator args => r.bindsAll operator && guardedExprs r args
  | .subQuery _ _ q => q.isGuarded r
  | .factory _ _ args => guardedExprs r args
  | .template _ t args => t.bindsAll && guardedExprs r args

def Path.isGuarded (r : Registry) : Path → Bool
  | .root _ _ => true
  | .property _ parent _ | .listIndex _ parent _ | .mapKey _ parent _
  | .collectionAny _ parent => parent.isGuarded r
  | .listValue _ parent index | .mapValue _ parent index =>
      parent.isGuarded r && index.isGuarded r

def guardedExprs (r : Registry) : List Expr → Bool
  | [] => true
  | e :: es => e.isGuarded r && guardedExprs r es

def guardedExpr? (r : Registry) : Option Expr → Bool
  | none => true
  | some e => e.isGuarded r

def guardedJoins (r : Registry) : List (Join Expr) → Bool
  | [] => true
  | ⟨_, target, condition, _, _⟩ :: joins =>
      target.isGuarded r && guardedExpr? r condition && guardedJoins r joins

def guardedKeys (r : Registry) : List (OrderKey Expr) → Bool
  | [] => true
  | ⟨target, _, _⟩ :: keys => target.isGuarded r && guardedKeys r keys

/-- Whether the expressions of a query are guarded and its flags are plain text. -/
def Query.isGuarded (r : Registry) : Query Expr → Bool
  | ⟨projection, joins, filter, groupBy, having, orderBy, _, _, _, flags, _⟩ =>
      guardedExprs r projection && guardedJoins r joins && guardedExpr? r filter &&
        guardedExprs r groupBy && guardedExpr? r having && guardedKeys r orderBy &&
        flags.all Flag.isText

end

@[simp] theorem guardedExprs_eq_all (r : Registry) (es : List Expr) :
    guardedExprs r es = es.all (·.isGuarded r) := by
  induction es with
  | nil => rfl
  | cons e es ih => simp [guardedExprs, ih]

namespace RowSource

def isGuarded (r : Registry) : RowSource → Bool
  | rows rs => rs.all (·.all (·.isGuarded r))
  | query q => q.isGuarded r

end RowSource

namespace Request

/-- Whether no operation and no template of a request writes a constant out, and all its flags are
plain text. Of columns only the names are written. -/
def isGuarded (r : Registry) : Request → Bool
  | query q _ _ | delete q => q.isGuarded r
  | expr e => e.isGuarded r
  | update q assignments =>
      q.isGuarded r && assignments.all fun a ↦ a.1.isGuarded r && a.2.isGuarded r
  | insert _ _ source | merge _ _ _ source => source.isGuarded r

end Request

end TypedQuery
