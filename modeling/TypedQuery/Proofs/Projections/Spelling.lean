import TypedQuery.Proofs.Nesting.Replacement
import TypedQuery.Proofs.Pagination.Queries
import TypedQuery.Proofs.Projections.Operands

/-!
# Factories spelled out

A factory that stands outside of a projection is the same as a template with parentheses around its
items. A projection is more than the list of what is selected: flags around the word `select` belong
to it, and sources, order keys and flags at the end of a query may be written in it as well.
-/

namespace TypedQuery

open List (Forall₂)

/-- The template of items in parentheses. -/
def Template.row : Template := .ofElements [.text "(", .all, .text ")"]

/-- The parts of a query that are written in a projection, whether or not they are written in
another place too. -/
structure Shown where
  root : Bool
  keys : Bool
  flags : Position → Bool

namespace Query

variable {ε : Type}

/-- Whether a query stands behind the word for a limit or in a query that selects numbered rows. -/
def isRowNumbered (p : Profile) (q : Query ε) : Bool :=
  match p.pagination with
  | .topRowNumber _ _ => !q.joins.isEmpty && q.modifiers.isRestricting
  | _ => false

/-- What a query writes in a projection when it stands in one (`outer`) or outside of one. The
object query languages write the first source when nothing else can be selected or counted, and
numbered rows are numbered by their order keys. -/
def shown (p : Profile) (outer : Bool) (isFactory : ε → Bool) (q : Query ε) : Shown where
  root := p.family == .jpql && q.projection.head?.all isFactory
  keys := q.isRowNumbered p && q.modifiers.offset.isSome
  flags
    | .start => outer
    | .startOverride | .afterSelect | .afterProjection => true
    | .finish => q.isRowNumbered p && outer
    | _ => false

end Query

mutual

/-- An expression in which factories are spelled out, but for those in a projection. -/
def Expr.spelled (p : Profile) (shown : Bool) : Expr → Expr
  | .constant c => .constant c
  | .param x => .param x
  | .path x => .path (x.spelled p shown)
  | .operation type operator args => .operation type operator (spelledExprs p shown args)
  | .subQuery identity type q => .subQuery identity type (q.spelled p shown)
  | .factory type maker args =>
      if shown then .factory type maker (spelledExprs p shown args)
      else .template type .row (spelledExprs p shown args)
  | .template type t args => .template type t (spelledExprs p shown args)
termination_by structural x => x

def Path.spelled (p : Profile) (shown : Bool) : Path → Path
  | .root type name => .root type name
  | .property type parent name => .property type (parent.spelled p shown) name
  | .listValue type parent index =>
      .listValue type (parent.spelled p shown) (index.spelled p shown)
  | .listIndex type parent index => .listIndex type (parent.spelled p shown) index
  | .mapValue type parent key => .mapValue type (parent.spelled p shown) (key.spelled p shown)
  | .mapKey type parent key => .mapKey type (parent.spelled p shown) key
  | .collectionAny type parent => .collectionAny type (parent.spelled p shown)
termination_by structural x => x

def spelledExprs (p : Profile) (shown : Bool) : List Expr → List Expr
  | [] => []
  | e :: es => e.spelled p shown :: spelledExprs p shown es
termination_by structural x => x

def spelledExpr? (p : Profile) : Option Expr → Option Expr
  | none => none
  | some e => some (e.spelled p false)
termination_by structural x => x

/-- Joins, of which the first may stand in a projection. -/
def spelledJoins (p : Profile) (shown : Bool) : List (Join Expr) → List (Join Expr)
  | [] => []
  | ⟨kind, target, condition, fetch, fetchAll⟩ :: joins =>
      ⟨kind, target.spelled p shown, spelledExpr? p condition, fetch, fetchAll⟩ ::
        spelledJoins p false joins
termination_by structural x => x

def spelledKeys (p : Profile) (shown : Bool) : List (OrderKey Expr) → List (OrderKey Expr)
  | [] => []
  | ⟨target, direction, nulls⟩ :: keys =>
      ⟨target.spelled p shown, direction, nulls⟩ :: spelledKeys p shown keys
termination_by structural x => x

def spelledFlags (p : Profile) (shown : Position → Bool) : List (Flag Expr) → List (Flag Expr)
  | [] => []
  | ⟨position, .text text⟩ :: flags => ⟨position, .text text⟩ :: spelledFlags p shown flags
  | ⟨position, .expr e⟩ :: flags =>
      ⟨position, .expr (e.spelled p (shown position))⟩ :: spelledFlags p shown flags
termination_by structural x => x

def Query.spelled (p : Profile) (outer : Bool) : Query Expr → Query Expr
  | q@⟨projection, joins, filter, groupBy, having, orderBy, modifiers, distinct, unique, flags,
      params⟩ =>
      let shown := q.shown p outer Expr.isFactory
      { projection := spelledExprs p true projection
        joins := spelledJoins p shown.root joins
        filter := spelledExpr? p filter
        groupBy := spelledExprs p false groupBy
        having := spelledExpr? p having
        orderBy := spelledKeys p shown.keys orderBy
        modifiers, distinct, unique
        flags := spelledFlags p shown.flags flags
        params }
termination_by structural x => x

end

def RowSource.spelled (p : Profile) : RowSource → RowSource
  | rows rs => .rows (rs.map (List.map (Expr.spelled p false)))
  | query q => .query (q.spelled p false)

/-- A request in which the factories that stand outside of projections are spelled out. Of columns
only the names are written. -/
def Request.spelled (p : Profile) : Request → Request
  | query q forCount projection => .query (q.spelled p false) forCount projection
  | expr e => .expr (e.spelled p false)
  | delete q => .delete (q.spelled p false)
  | update q assignments =>
      .update (q.spelled p false)
        (assignments.map fun a ↦ (a.1.spelled p false, a.2.spelled p false))
  | insert root columns source => .insert root columns (source.spelled p)
  | merge root keys columns source => .merge root keys columns (source.spelled p)

variable {p : Profile} {shown outer : Bool}

@[simp] theorem spelledExprs_eq_map (p : Profile) (shown : Bool) (es : List Expr) :
    spelledExprs p shown es = es.map (Expr.spelled p shown) := by
  induction es with
  | nil => rfl
  | cons e es ih => simp [spelledExprs, ih]

theorem spelledKeys_eq_map (p : Profile) (shown : Bool) (keys : List (OrderKey Expr)) :
    spelledKeys p shown keys = keys.map (OrderKey.map (Expr.spelled p shown)) := by
  induction keys with
  | nil => rfl
  | cons key keys ih => simp [spelledKeys, OrderKey.map, ih]

theorem spelledFlags_eq_map (p : Profile) (shown : Position → Bool) (flags : List (Flag Expr)) :
    spelledFlags p shown flags =
      flags.map fun flag ↦ flag.map (Expr.spelled p (shown flag.position)) := by
  induction flags with
  | nil => rfl
  | cons flag flags ih =>
      obtain ⟨position, content⟩ := flag
      cases content <;> simp [spelledFlags, Flag.map, FlagContent.map, ih]

/-! ## What spelling out keeps -/

theorem keepsNodes_spelled (p : Profile) :
    KeepsNodes (Expr.spelled p true) (Path.spelled p true) where
  constant _ := rfl
  param _ := rfl
  path _ := rfl
  operation _ _ _ := by rw [Expr.spelled, spelledExprs_eq_map]
  subQuery _ _ _ := ⟨_, rfl⟩
  factory _ _ _ := by rw [Expr.spelled, if_pos rfl, spelledExprs_eq_map]
  template _ _ _ := by rw [Expr.spelled, spelledExprs_eq_map]
  root _ _ := rfl
  property _ _ _ := rfl
  listValue _ _ _ := rfl
  listIndex _ _ _ := rfl
  mapValue _ _ _ := rfl
  mapKey _ _ _ := rfl
  collectionAny _ _ := rfl

namespace Path

@[simp] theorem type_spelled (x : Path) : (x.spelled p shown).type = x.type := by
  cases x <;> rfl

theorem sameFace_spelled (x : Path) : x.SameFace (x.spelled p shown) where
  type := x.type_spelled.symm
  kind := by cases x <;> rfl
  name? := by cases x <;> rfl
  owner := by cases x <;> simp [Path.spelled, Path.parent?]

end Path

theorem Expr.isFactory_spelled (e : Expr) : (e.spelled p true).isFactory = e.isFactory := by
  cases e <;> rfl

/-! ## Operands -/

/-- An operand of an expression and one of the expression spelled out, which write the same outside
of projections, and in them too when factories in projections are kept (`shown`). -/
structure Operand.SpelledIn (p : Profile) (shown : Bool) (x y : Operand) : Prop where
  expr : y.expr = x.expr.spelled p shown
  agree : ∀ b, (b = true → shown = true) → x.Agree b b y

namespace Operand.SpelledIn

variable {x y x' y' : Operand} {xs ys : List Operand}

theorem outside (h : x.SpelledIn p shown y) : x.Agree false false y := h.agree false nofun

theorem inside (h : x.SpelledIn p true y) : x.Agree true true y := h.agree true fun _ ↦ rfl

theorem forall₂_agree (h : Forall₂ (SpelledIn p shown) xs ys) {b : Bool}
    (hb : b = true → shown = true) : Forall₂ (Operand.Agree b b) xs ys :=
  h.imp fun _ _ hxy ↦ hxy.agree b hb

theorem map_expr (h : Forall₂ (SpelledIn p shown) xs ys) :
    ys.map Operand.expr = (xs.map Operand.expr).map (Expr.spelled p shown) := by
  induction h with
  | nil => rfl
  | cons hxy _ ih => rw [List.map_cons, List.map_cons, List.map_cons, hxy.expr, ih]

/-- Equality does not depend on the spelling. -/
theorem beq (h : x.SpelledIn p true y) (h' : x'.SpelledIn p true y') :
    (y == y') = (x == x') := by
  change y.expr.eqv y'.expr = x.expr.eqv x'.expr
  rw [h.expr, h'.expr, (keepsNodes_spelled p).eqv]

end Operand.SpelledIn

end TypedQuery
