import Mathlib.Tactic.Choose
import TypedQuery.Statement

/-!
# Other queries in place of a sub-query

The query of a sub-query is replaced wherever the sub-query stands in a request. Equality of
expressions does not see the replacement, because a sub-query is compared by its identity.
-/

namespace TypedQuery

/-! ## Queries over other expressions -/

section

variable {ε δ γ : Type}

def Join.map (f : ε → δ) (j : Join ε) : Join δ :=
  ⟨j.kind, f j.target, j.condition.map f, j.fetch, j.fetchAll⟩

def OrderKey.map (f : ε → δ) (key : OrderKey ε) : OrderKey δ :=
  ⟨f key.target, key.direction, key.nulls⟩

namespace FlagContent

def map (f : ε → δ) : FlagContent ε → FlagContent δ
  | text t => text t
  | expr e => expr (f e)

def expr? : FlagContent ε → Option ε
  | text _ => none
  | expr e => some e

end FlagContent

def Flag.map (f : ε → δ) (flag : Flag ε) : Flag δ := ⟨flag.position, flag.content.map f⟩

namespace Query

/-- The query of the same shape over other expressions. -/
def map (f : ε → δ) (q : Query ε) : Query δ :=
  { projection := q.projection.map f
    joins := q.joins.map (Join.map f)
    filter := q.filter.map f
    groupBy := q.groupBy.map f
    having := q.having.map f
    orderBy := q.orderBy.map (OrderKey.map f)
    modifiers := q.modifiers
    distinct := q.distinct
    unique := q.unique
    flags := q.flags.map (Flag.map f)
    params := q.params }

/-- All expressions of a query have a property. -/
structure Each (p : ε → Prop) (q : Query ε) : Prop where
  projection : ∀ e ∈ q.projection, p e
  joins : ∀ j ∈ q.joins, p j.target ∧ ∀ e ∈ j.condition, p e
  filter : ∀ e ∈ q.filter, p e
  groupBy : ∀ e ∈ q.groupBy, p e
  having : ∀ e ∈ q.having, p e
  orderBy : ∀ key ∈ q.orderBy, p key.target
  flags : ∀ flag ∈ q.flags, ∀ e ∈ flag.content.expr?, p e

theorem map_map (f : ε → δ) (g : δ → γ) (q : Query ε) : (q.map f).map g = q.map (g ∘ f) := by
  have hjoins : Join.map g ∘ Join.map f = Join.map (g ∘ f) := by
    funext j
    simp [Join.map]
  have hkeys : OrderKey.map g ∘ OrderKey.map f = OrderKey.map (g ∘ f) := rfl
  have hflags : Flag.map g ∘ Flag.map f = Flag.map (g ∘ f) := by
    funext flag
    obtain ⟨position, content⟩ := flag
    cases content <;> rfl
  simp only [map, List.map_map, Option.map_map, hjoins, hkeys, hflags]

theorem Each.map {f : ε → δ} {p : δ → Prop} {q : Query ε} (h : q.Each fun e ↦ p (f e)) :
    (q.map f).Each p where
  projection := List.forall_mem_map.mpr h.projection
  joins := List.forall_mem_map.mpr fun j hj ↦ ⟨(h.joins j hj).1, by
    simpa [Join.map] using (h.joins j hj).2⟩
  filter := by simpa [Query.map] using h.filter
  groupBy := List.forall_mem_map.mpr h.groupBy
  having := by simpa [Query.map] using h.having
  orderBy := List.forall_mem_map.mpr h.orderBy
  flags := List.forall_mem_map.mpr fun flag hflag e he ↦ by
    have heach := h.flags flag hflag
    obtain ⟨position, content⟩ := flag
    cases content with
    | text t => cases he
    | expr e' =>
        obtain rfl := Option.some.inj he
        exact heach e' rfl

end Query

end

/-! ## Induction on expressions -/

/-- Properties of expressions and paths that these have when their parts do. -/
structure Hereditary (P : Expr → Prop) (Q : Path → Prop) : Prop where
  constant (c : Constant) : P (.constant c)
  param (p : Param) : P (.param p)
  path (p : Path) (h : Q p) : P (.path p)
  operation (type : ValueType) (operator : Operator) (args : List Expr) (h : ∀ e ∈ args, P e) :
    P (.operation type operator args)
  subQuery (identity : Nat) (type : ValueType) (q : Query Expr) (h : q.Each P) :
    P (.subQuery identity type q)
  factory (type : ValueType) (maker : Factory) (args : List Expr) (h : ∀ e ∈ args, P e) :
    P (.factory type maker args)
  template (type : ValueType) (t : Template) (args : List Expr) (h : ∀ e ∈ args, P e) :
    P (.template type t args)
  root (type : ValueType) (name : String) : Q (.root type name)
  property (type : ValueType) (parent : Path) (name : String) (h : Q parent) :
    Q (.property type parent name)
  listValue (type : ValueType) (parent : Path) (index : Expr) (h : Q parent) (hi : P index) :
    Q (.listValue type parent index)
  listIndex (type : ValueType) (parent : Path) (index : UInt64) (h : Q parent) :
    Q (.listIndex type parent index)
  mapValue (type : ValueType) (parent : Path) (key : Expr) (h : Q parent) (hk : P key) :
    Q (.mapValue type parent key)
  mapKey (type : ValueType) (parent : Path) (key : Value) (h : Q parent) :
    Q (.mapKey type parent key)
  collectionAny (type : ValueType) (parent : Path) (h : Q parent) :
    Q (.collectionAny type parent)

namespace Hereditary

variable {P : Expr → Prop} {Q : Path → Prop}

mutual

theorem of_expr (h : Hereditary P Q) : ∀ e : Expr, P e
  | .constant c => h.constant c
  | .param p => h.param p
  | .path p => h.path p (h.of_path p)
  | .operation type operator args => h.operation type operator args (h.of_exprs args)
  | .subQuery identity type q => h.subQuery identity type q (h.of_query q)
  | .factory type maker args => h.factory type maker args (h.of_exprs args)
  | .template type t args => h.template type t args (h.of_exprs args)

theorem of_path (h : Hereditary P Q) : ∀ p : Path, Q p
  | .root type name => h.root type name
  | .property type parent name => h.property type parent name (h.of_path parent)
  | .listValue type parent index =>
      h.listValue type parent index (h.of_path parent) (h.of_expr index)
  | .listIndex type parent index => h.listIndex type parent index (h.of_path parent)
  | .mapValue type parent key => h.mapValue type parent key (h.of_path parent) (h.of_expr key)
  | .mapKey type parent key => h.mapKey type parent key (h.of_path parent)
  | .collectionAny type parent => h.collectionAny type parent (h.of_path parent)

theorem of_exprs (h : Hereditary P Q) : ∀ es : List Expr, ∀ e ∈ es, P e
  | [] => List.forall_mem_nil _
  | e :: es => List.forall_mem_cons.mpr ⟨h.of_expr e, h.of_exprs es⟩

theorem of_expr? (h : Hereditary P Q) : ∀ e : Option Expr, ∀ a ∈ e, P a
  | none => fun _ ha ↦ nomatch ha
  | some e => fun _ ha ↦ Option.some.inj ha ▸ h.of_expr e

theorem of_joins (h : Hereditary P Q) :
    ∀ js : List (Join Expr), ∀ j ∈ js, P j.target ∧ ∀ e ∈ j.condition, P e
  | [] => List.forall_mem_nil _
  | ⟨_, target, condition, _, _⟩ :: js =>
      List.forall_mem_cons.mpr ⟨⟨h.of_expr target, h.of_expr? condition⟩, h.of_joins js⟩

theorem of_keys (h : Hereditary P Q) : ∀ keys : List (OrderKey Expr), ∀ key ∈ keys, P key.target
  | [] => List.forall_mem_nil _
  | ⟨target, _, _⟩ :: keys => List.forall_mem_cons.mpr ⟨h.of_expr target, h.of_keys keys⟩

theorem of_flags (h : Hereditary P Q) :
    ∀ flags : List (Flag Expr), ∀ flag ∈ flags, ∀ e ∈ flag.content.expr?, P e
  | [] => List.forall_mem_nil _
  | ⟨_, .text _⟩ :: flags => List.forall_mem_cons.mpr ⟨fun _ he ↦ (nomatch he), h.of_flags flags⟩
  | ⟨_, .expr e⟩ :: flags =>
      List.forall_mem_cons.mpr ⟨fun _ he ↦ Option.some.inj he ▸ h.of_expr e, h.of_flags flags⟩

theorem of_query (h : Hereditary P Q) : ∀ q : Query Expr, q.Each P
  | ⟨projection, joins, filter, groupBy, having, orderBy, _, _, _, flags, _⟩ =>
      { projection := h.of_exprs projection
        joins := h.of_joins joins
        filter := h.of_expr? filter
        groupBy := h.of_exprs groupBy
        having := h.of_expr? having
        orderBy := h.of_keys orderBy
        flags := h.of_flags flags }

end

end Hereditary

/-! ## Replacement -/

mutual

/-- An expression with another query in each sub-query of one identity. -/
def Expr.withQuery (identity : Nat) (q : Query Expr) : Expr → Expr
  | .constant c => .constant c
  | .param p => .param p
  | .path p => .path (p.withQuery identity q)
  | .operation type operator args => .operation type operator (withQueryExprs identity q args)
  | .subQuery i type inner =>
      .subQuery i type (if i = identity then q else Query.withQuery identity q inner)
  | .factory type maker args => .factory type maker (withQueryExprs identity q args)
  | .template type t args => .template type t (withQueryExprs identity q args)
termination_by structural x => x

def Path.withQuery (identity : Nat) (q : Query Expr) : Path → Path
  | .root type name => .root type name
  | .property type parent name => .property type (parent.withQuery identity q) name
  | .listValue type parent index =>
      .listValue type (parent.withQuery identity q) (index.withQuery identity q)
  | .listIndex type parent index => .listIndex type (parent.withQuery identity q) index
  | .mapValue type parent key =>
      .mapValue type (parent.withQuery identity q) (key.withQuery identity q)
  | .mapKey type parent key => .mapKey type (parent.withQuery identity q) key
  | .collectionAny type parent => .collectionAny type (parent.withQuery identity q)
termination_by structural x => x

def withQueryExprs (identity : Nat) (q : Query Expr) : List Expr → List Expr
  | [] => []
  | e :: es => e.withQuery identity q :: withQueryExprs identity q es
termination_by structural x => x

def withQueryExpr? (identity : Nat) (q : Query Expr) : Option Expr → Option Expr
  | none => none
  | some e => some (e.withQuery identity q)
termination_by structural x => x

def withQueryJoins (identity : Nat) (q : Query Expr) : List (Join Expr) → List (Join Expr)
  | [] => []
  | ⟨kind, target, condition, fetch, fetchAll⟩ :: joins =>
      ⟨kind, target.withQuery identity q, withQueryExpr? identity q condition, fetch, fetchAll⟩ ::
        withQueryJoins identity q joins
termination_by structural x => x

def withQueryKeys (identity : Nat) (q : Query Expr) :
    List (OrderKey Expr) → List (OrderKey Expr)
  | [] => []
  | ⟨target, direction, nulls⟩ :: keys =>
      ⟨target.withQuery identity q, direction, nulls⟩ :: withQueryKeys identity q keys
termination_by structural x => x

def withQueryFlags (identity : Nat) (q : Query Expr) : List (Flag Expr) → List (Flag Expr)
  | [] => []
  | ⟨position, .text text⟩ :: flags => ⟨position, .text text⟩ :: withQueryFlags identity q flags
  | ⟨position, .expr e⟩ :: flags =>
      ⟨position, .expr (e.withQuery identity q)⟩ :: withQueryFlags identity q flags
termination_by structural x => x

def Query.withQuery (identity : Nat) (q : Query Expr) : Query Expr → Query Expr
  | ⟨projection, joins, filter, groupBy, having, orderBy, modifiers, distinct, unique, flags,
      params⟩ =>
      { projection := withQueryExprs identity q projection
        joins := withQueryJoins identity q joins
        filter := withQueryExpr? identity q filter
        groupBy := withQueryExprs identity q groupBy
        having := withQueryExpr? identity q having
        orderBy := withQueryKeys identity q orderBy
        modifiers, distinct, unique
        flags := withQueryFlags identity q flags
        params }
termination_by structural x => x

end

variable {k : Nat} {q : Query Expr}

@[simp] theorem withQueryExprs_eq_map (k : Nat) (q : Query Expr) (es : List Expr) :
    withQueryExprs k q es = es.map (Expr.withQuery k q) := by
  induction es with
  | nil => rfl
  | cons e es ih => simp [withQueryExprs, ih]

@[simp] theorem withQueryExpr?_eq_map (k : Nat) (q : Query Expr) (e : Option Expr) :
    withQueryExpr? k q e = e.map (Expr.withQuery k q) := by
  cases e <;> rfl

theorem Query.withQuery_eq_map (k : Nat) (q q' : Query Expr) :
    Query.withQuery k q q' = q'.map (Expr.withQuery k q) := by
  have hjoins : ∀ js, withQueryJoins k q js = js.map (Join.map (Expr.withQuery k q)) := by
    intro js
    induction js with
    | nil => rfl
    | cons j js ih => simp [withQueryJoins, Join.map, ih]
  have hkeys : ∀ keys, withQueryKeys k q keys = keys.map (OrderKey.map (Expr.withQuery k q)) := by
    intro keys
    induction keys with
    | nil => rfl
    | cons key keys ih => simp [withQueryKeys, OrderKey.map, ih]
  have hflags : ∀ flags, withQueryFlags k q flags = flags.map (Flag.map (Expr.withQuery k q)) := by
    intro flags
    induction flags with
    | nil => rfl
    | cons flag flags ih =>
        obtain ⟨position, content⟩ := flag
        cases content <;> simp [withQueryFlags, Flag.map, FlagContent.map, ih]
  cases q'
  simp [withQuery, map, hjoins, hkeys, hflags]

theorem Setup.queryOperands_eq_map (s : Setup) (q : Query Expr) :
    s.queryOperands q = q.map s.operand := by
  have hjoins : ∀ js, s.joinOperands js = js.map (Join.map s.operand) := by
    intro js
    induction js with
    | nil => rfl
    | cons j js ih => simp [joinOperands, Join.map, ih]
  have hkeys : ∀ keys, s.orderOperands keys = keys.map (OrderKey.map s.operand) := by
    intro keys
    induction keys with
    | nil => rfl
    | cons key keys ih => simp [orderOperands, OrderKey.map, ih]
  have hflags : ∀ flags, s.flagOperands flags = flags.map (Flag.map s.operand) := by
    intro flags
    induction flags with
    | nil => rfl
    | cons flag flags ih =>
        obtain ⟨position, content⟩ := flag
        cases content <;> simp [flagOperands, Flag.map, FlagContent.map, ih]
  cases q
  simp [queryOperands, Query.map, hjoins, hkeys, hflags]

namespace RowSource

def withQuery (identity : Nat) (q : Query Expr) : RowSource → RowSource
  | rows rs => .rows (rs.map (List.map (Expr.withQuery identity q)))
  | query inner => .query (Query.withQuery identity q inner)

end RowSource

namespace Request

/-- A request with another query in each sub-query of one identity. -/
def withQuery (identity : Nat) (q : Query Expr) : Request → Request
  | query inner forCount projection => .query (Query.withQuery identity q inner) forCount projection
  | expr e => .expr (e.withQuery identity q)
  | delete inner => .delete (Query.withQuery identity q inner)
  | update inner assignments =>
      .update (Query.withQuery identity q inner)
        (assignments.map fun a ↦ (a.1.withQuery identity q, a.2.withQuery identity q))
  | insert root columns source =>
      .insert (root.withQuery identity q) (columns.map (Path.withQuery identity q))
        (source.withQuery identity q)
  | merge root keys columns source =>
      .merge (root.withQuery identity q) (keys.map (Path.withQuery identity q))
        (columns.map (Path.withQuery identity q)) (source.withQuery identity q)

end Request

/-! ## What a replacement keeps -/

namespace Path

@[simp] theorem type_withQuery (p : Path) : (p.withQuery k q).type = p.type := by
  cases p <;> rfl

@[simp] theorem kind_withQuery (p : Path) : (p.withQuery k q).kind = p.kind := by
  cases p <;> rfl

@[simp] theorem isRoot_withQuery (p : Path) : (p.withQuery k q).isRoot = p.isRoot := by
  cases p <;> rfl

@[simp] theorem name?_withQuery (p : Path) : (p.withQuery k q).name? = p.name? := by
  cases p <;> rfl

end Path

namespace Expr

@[simp] theorem type_withQuery (e : Expr) : (e.withQuery k q).type = e.type := by
  cases e with
  | path p => exact p.type_withQuery
  | _ => rfl

@[simp] theorem value?_withQuery (e : Expr) : (e.withQuery k q).value? = e.value? := by
  cases e <;> rfl

@[simp] theorem path?_withQuery (e : Expr) :
    (e.withQuery k q).path? = e.path?.map (Path.withQuery k q) := by
  cases e <;> rfl

@[simp] theorem isConstant_withQuery (e : Expr) : (e.withQuery k q).isConstant = e.isConstant := by
  cases e <;> rfl

theorem numericTarget_withQuery (es : List Expr) :
    numericTarget (es.map (withQuery k q)) = numericTarget es :=
  numericTarget_map isConstant_withQuery (fun e _ ↦ type_withQuery e) es

end Expr

/-! ## Equality of changed expressions -/

/-- Functions on expressions and paths that keep every node and go on with its parts. They may put
other queries in place of those of sub-queries. -/
structure KeepsNodes (f : Expr → Expr) (g : Path → Path) : Prop where
  constant (c : Constant) : f (.constant c) = .constant c
  param (p : Param) : f (.param p) = .param p
  path (p : Path) : f (.path p) = .path (g p)
  operation (type : ValueType) (operator : Operator) (args : List Expr) :
    f (.operation type operator args) = .operation type operator (args.map f)
  subQuery (identity : Nat) (type : ValueType) (q : Query Expr) :
    ∃ q', f (.subQuery identity type q) = .subQuery identity type q'
  factory (type : ValueType) (maker : Factory) (args : List Expr) :
    f (.factory type maker args) = .factory type maker (args.map f)
  template (type : ValueType) (t : Template) (args : List Expr) :
    f (.template type t args) = .template type t (args.map f)
  root (type : ValueType) (name : String) : g (.root type name) = .root type name
  property (type : ValueType) (parent : Path) (name : String) :
    g (.property type parent name) = .property type (g parent) name
  listValue (type : ValueType) (parent : Path) (index : Expr) :
    g (.listValue type parent index) = .listValue type (g parent) (f index)
  listIndex (type : ValueType) (parent : Path) (index : UInt64) :
    g (.listIndex type parent index) = .listIndex type (g parent) index
  mapValue (type : ValueType) (parent : Path) (key : Expr) :
    g (.mapValue type parent key) = .mapValue type (g parent) (f key)
  mapKey (type : ValueType) (parent : Path) (key : Value) :
    g (.mapKey type parent key) = .mapKey type (g parent) key
  collectionAny (type : ValueType) (parent : Path) :
    g (.collectionAny type parent) = .collectionAny type (g parent)

theorem eqvArgs_map {f : Expr → Expr} {es fs : List Expr}
    (h : ∀ e ∈ es, ∀ e' : Expr, (f e).eqv (f e') = e.eqv e') :
    eqvArgs (es.map f) (fs.map f) = eqvArgs es fs := by
  induction es generalizing fs with
  | nil => cases fs <;> rfl
  | cons e es ih =>
      cases fs with
      | nil => rfl
      | cons e' fs =>
          simp only [List.map_cons, eqvArgs]
          rw [h e List.mem_cons_self e', ih fun a ha ↦ h a (List.mem_cons_of_mem e ha)]

namespace KeepsNodes

variable {f : Expr → Expr} {g : Path → Path}

/-- Equality does not look into sub-queries. -/
theorem hereditary_eqv (hf : KeepsNodes f g) :
    Hereditary (fun e ↦ ∀ e' : Expr, (f e).eqv (f e') = e.eqv e')
      fun p ↦ ∀ p' : Path, (g p).eqv (g p') = p.eqv p' := by
  choose other hsubQuery using hf.subQuery
  have hexpr := And.intro hf.constant (And.intro hf.param (And.intro hf.path
    (And.intro hf.operation (And.intro hsubQuery (And.intro hf.factory hf.template)))))
  have hpath := And.intro hf.root (And.intro hf.property (And.intro hf.listValue
    (And.intro hf.listIndex (And.intro hf.mapValue (And.intro hf.mapKey hf.collectionAny)))))
  exact
    { constant := fun c e' ↦ by cases e' <;> simp only [hexpr, Expr.eqv]
      param := fun p e' ↦ by cases e' <;> simp only [hexpr, Expr.eqv]
      path := fun p h e' ↦ by cases e' <;> simp only [hexpr, Expr.eqv, h]
      operation := fun type operator args h e' ↦ by
        cases e' <;> simp only [hexpr, Expr.eqv, eqvArgs_map h]
      subQuery := fun identity type q _ e' ↦ by cases e' <;> simp only [hexpr, Expr.eqv]
      factory := fun type maker args h e' ↦ by
        cases e' <;> simp only [hexpr, Expr.eqv, eqvArgs_map h]
      template := fun type t args h e' ↦ by
        cases e' <;> simp only [hexpr, Expr.eqv, eqvArgs_map h]
      root := fun type name p' ↦ by cases p' <;> simp only [hpath, Path.eqv]
      property := fun type parent name h p' ↦ by cases p' <;> simp only [hpath, Path.eqv, h]
      listValue := fun type parent index h hi p' ↦ by
        cases p' <;> simp only [hpath, Path.eqv, h, hi]
      listIndex := fun type parent index h p' ↦ by cases p' <;> simp only [hpath, Path.eqv, h]
      mapValue := fun type parent key h hk p' ↦ by
        cases p' <;> simp only [hpath, Path.eqv, h, hk]
      mapKey := fun type parent key h p' ↦ by cases p' <;> simp only [hpath, Path.eqv, h]
      collectionAny := fun type parent h p' ↦ by cases p' <;> simp only [hpath, Path.eqv, h] }

theorem eqv (hf : KeepsNodes f g) (e e' : Expr) : (f e).eqv (f e') = e.eqv e' :=
  hf.hereditary_eqv.of_expr e e'

end KeepsNodes

theorem keepsNodes_withQuery (k : Nat) (q : Query Expr) :
    KeepsNodes (Expr.withQuery k q) (Path.withQuery k q) where
  constant _ := rfl
  param _ := rfl
  path _ := rfl
  operation _ _ _ := by rw [Expr.withQuery, withQueryExprs_eq_map]
  subQuery _ _ _ := ⟨_, rfl⟩
  factory _ _ _ := by rw [Expr.withQuery, withQueryExprs_eq_map]
  template _ _ _ := by rw [Expr.withQuery, withQueryExprs_eq_map]
  root _ _ := rfl
  property _ _ _ := rfl
  listValue _ _ _ := rfl
  listIndex _ _ _ := rfl
  mapValue _ _ _ := rfl
  mapKey _ _ _ := rfl
  collectionAny _ _ := rfl

theorem Expr.eqv_withQuery (e f : Expr) : (e.withQuery k q).eqv (f.withQuery k q) = e.eqv f :=
  (keepsNodes_withQuery k q).eqv e f

end TypedQuery
