import TypedQuery.Proofs.Projections.Selects

/-!
# Statements with factories spelled out

Every statement is written as if each factory that stands outside of a projection were a template
with parentheses around its items. As an argument such a template stays one operand. In a projection
the items of a factory run on into what stands around them.
-/

namespace TypedQuery

open List (Forall₂)
open Rendering (Writes isScopeFree_fail isScopeFree_text)

namespace Setup

variable {s : Setup} {b shown : Bool} {xs ys : List Operand}

/-! ## Factories -/

/-- The template of a row writes its items in parentheses wherever it stands. -/
theorem render_row (type : ValueType) (items : List Operand) :
    (s.template type .row items).render =
      (Rendering.commas (items.map Operand.render)).parenthesized := by
  have hrender : s.argument (-1) = Operand.render := rfl
  have happly : (s.template type .row items).render =
      .text "(" ++ (.commas (items.map (s.argument (-1))) ++ (.text ")" ++ .empty)) := rfl
  rw [happly, hrender, Rendering.append_empty, Rendering.parenthesized, Rendering.between,
    Rendering.append_assoc]

theorem agree_factory (type : ValueType) (maker : Factory)
    (h : Forall₂ (Operand.Agree b b) xs ys) :
    Operand.Agree b b (factory type maker xs) (factory type maker ys) := by
  have hitems : Rendering.Agree b b (.commas (xs.map Operand.render))
      (.commas (ys.map Operand.render)) := .separated ", " (Operand.Agree.forall₂_render h)
  refine .leaf (Expr.sameFace_of_type rfl rfl rfl rfl rfl) fun wrap ↦ ?_
  dsimp only
  split
  · exact hitems wrap
  · exact hitems.between "(" ")" wrap

/-- Outside of a projection a factory is a template with parentheses. -/
theorem agree_factory_row (type : ValueType) (maker : Factory)
    (h : Forall₂ (Operand.Agree false false) xs ys) :
    Operand.Agree false false (factory type maker xs) (s.template type .row ys) := by
  have hitems : Rendering.Agree false false (.commas (xs.map Operand.render))
      (.commas (ys.map Operand.render)) := .separated ", " (Operand.Agree.forall₂_render h)
  refine .leaf (Expr.sameFace_of_type rfl rfl rfl rfl rfl) fun wrap ↦ ?_
  change (Rendering.commas (xs.map Operand.render)).parenthesized ⟨false, wrap⟩ =
    (s.template type .row ys).render ⟨false, wrap⟩
  rw [render_row]
  exact hitems.between "(" ")" wrap

/-! ## Expressions -/

/-- The operand of an expression writes the same as that of the expression spelled out. -/
def KeepsText (s : Setup) (e : Expr) : Prop :=
  ∀ shown b, (b = true → shown = true) →
    Operand.Agree b b (s.operand e) (s.operand (e.spelled s.profile shown))

theorem KeepsText.spelledIn {e : Expr} (h : s.KeepsText e) (shown : Bool) :
    (s.operand e).SpelledIn s.profile shown (s.operand (e.spelled s.profile shown)) where
  expr := by rw [expr_operand, expr_operand]
  agree := h shown

theorem agree_spelledExprs {es : List Expr} (h : ∀ e ∈ es, s.KeepsText e)
    (hb : b = true → shown = true) :
    Forall₂ (Operand.Agree b b) (s.operands es) (s.operands (spelledExprs s.profile shown es)) := by
  rw [operands_eq_map, operands_eq_map, spelledExprs_eq_map, List.map_map]
  exact forall₂_map_self fun e he ↦ h e he shown b hb

/-! ## Queries -/

theorem rel_spelledExpr? {e : Option Expr} (h : ∀ a ∈ e, s.KeepsText a) :
    Option.Rel (Operand.Agree false false) (e.map s.operand)
      ((spelledExpr? s.profile e).map s.operand) := by
  cases e with
  | none => exact .none
  | some e => exact .some (h e rfl false false nofun)

theorem forall₂_spelledJoins {joins : List (Join Expr)} (shown : Bool)
    (h : ∀ j ∈ joins, s.KeepsText j.target ∧ ∀ e ∈ j.condition, s.KeepsText e) :
    Forall₂ Join.Agree (joins.map (Join.map s.operand))
      ((spelledJoins s.profile shown joins).map (Join.map s.operand)) := by
  induction joins generalizing shown with
  | nil => exact .nil
  | cons j joins ih =>
      rw [List.forall_mem_cons] at h
      exact .cons
        { kind := rfl
          target := h.1.1 shown false nofun
          condition := rel_spelledExpr? h.1.2
          fetch := rfl
          fetchAll := rfl } (ih false h.2)

theorem rel_head?_spelledJoins {joins : List (Join Expr)} (hshown : shown = true)
    (h : ∀ j ∈ joins, s.KeepsText j.target) :
    Option.Rel (fun j k ↦ Operand.Agree true true j.target k.target)
      (joins.map (Join.map s.operand)).head?
      ((spelledJoins s.profile shown joins).map (Join.map s.operand)).head? := by
  cases joins with
  | nil => exact .none
  | cons j joins => exact .some (h j List.mem_cons_self shown true fun _ ↦ hshown)

theorem forall₂_spelledFlags {flags : List (Flag Expr)} (modes : Position → Bool)
    (h : ∀ flag ∈ flags, ∀ e ∈ flag.content.expr?, s.KeepsText e) :
    Forall₂ (Flag.SpelledIn s.profile modes) (flags.map (Flag.map s.operand))
      ((spelledFlags s.profile modes flags).map (Flag.map s.operand)) := by
  rw [spelledFlags_eq_map, List.map_map]
  refine forall₂_map_self ?_
  rintro ⟨position, content⟩ hflag
  cases content with
  | text t => exact ⟨rfl, .text t⟩
  | expr e => exact ⟨rfl, .expr ((h _ hflag e rfl).spelledIn (modes position))⟩

/-- The operands of a query and of the query spelled out. -/
theorem spelledIn_queryOperands {q : Query Expr} (h : q.Each s.KeepsText) (outer : Bool) :
    (s.queryOperands q).SpelledIn s.profile (q.shown s.profile outer Expr.isFactory)
      (s.queryOperands (q.spelled s.profile outer)) := by
  have hexprs : ∀ {mode : Bool} {es : List Expr}, (∀ e ∈ es, s.KeepsText e) →
      Forall₂ (Operand.SpelledIn s.profile mode) (es.map s.operand)
        ((spelledExprs s.profile mode es).map s.operand) := by
    intro mode es hes
    rw [spelledExprs_eq_map, List.map_map]
    exact forall₂_map_self fun e he ↦ (hes e he).spelledIn mode
  have hkeys : ∀ {mode : Bool} {keys : List (OrderKey Expr)},
      (∀ key ∈ keys, s.KeepsText key.target) →
      Forall₂ (OrderKey.SpelledIn s.profile mode) (keys.map (OrderKey.map s.operand))
        ((spelledKeys s.profile mode keys).map (OrderKey.map s.operand)) := by
    intro mode keys hall
    rw [spelledKeys_eq_map, List.map_map]
    exact forall₂_map_self fun key hkey ↦ ⟨(hall key hkey).spelledIn mode, rfl, rfl⟩
  rw [queryOperands_eq_map, queryOperands_eq_map]
  cases q with
  | mk projection joins filter groupBy having orderBy modifiers distinct unique flags params =>
      exact
        { projection := hexprs h.projection
          joins := forall₂_spelledJoins _ h.joins
          root := fun hroot ↦ rel_head?_spelledJoins hroot fun j hj ↦ (h.joins j hj).1
          filter := rel_spelledExpr? h.filter
          groupBy := Operand.SpelledIn.forall₂_agree (hexprs h.groupBy) nofun
          having := rel_spelledExpr? h.having
          orderBy := hkeys h.orderBy
          modifiers := rfl
          distinct := rfl
          flags := forall₂_spelledFlags _ h.flags }

theorem isRowNumbered_map {ε δ : Type} (p : Profile) (f : ε → δ) (q : Query ε) :
    (q.map f).isRowNumbered p = q.isRowNumbered p := by
  unfold Query.isRowNumbered
  rw [Query.map, List.isEmpty_map]

theorem covers_shown {q : Query Expr} {outer : Bool} (hb : b = true → outer = true) :
    (q.shown s.profile outer Expr.isFactory).Covers s.profile b (s.queryOperands q) where
  root hfamily hfactory := by
    rw [queryOperands_eq_map] at hfactory
    have hall : q.projection.head?.all Expr.isFactory = true := by
      simpa [Query.map, Option.all_map, Function.comp_def, expr_operand] using hfactory
    rw [Query.shown, hfamily, hall]
    rfl
  keys hnumbered hoffset := by
    rw [queryOperands_eq_map] at hnumbered hoffset
    rw [isRowNumbered_map] at hnumbered
    rw [Query.shown, hnumbered]
    exact hoffset
  start := hb
  startOverride := rfl
  afterSelect := rfl
  afterProjection := rfl
  finish hnumbered houter := by
    rw [queryOperands_eq_map, isRowNumbered_map] at hnumbered
    rw [Query.shown, hnumbered]
    exact hb houter

theorem agree_spelled_query {q : Query Expr} (h : q.Each s.KeepsText) {outer : Bool}
    (hb : b = true → outer = true) (forCount : Bool) (projection : Option String) :
    Rendering.Agree b b (s.query (s.queryOperands q) forCount projection)
      (s.query (s.queryOperands (q.spelled s.profile outer)) forCount projection) :=
  agree_query (spelledIn_queryOperands h outer) (covers_shown hb) forCount projection

/-! ## All expressions -/

theorem hereditary_keepsText (s : Setup) :
    Hereditary s.KeepsText fun p ↦ ∀ shown b, (b = true → shown = true) →
      Operand.Agree b b (s.pathOperand p) (s.pathOperand (p.spelled s.profile shown)) where
  constant c _ _ _ := s.agree_constant c
  param p _ _ _ := agree_param p
  path p h shown b hb := h shown b hb
  operation type operator args h _ _ hb := agree_operation type operator (agree_spelledExprs h hb)
  subQuery identity type q h _ _ hb :=
    .subQuery (Expr.sameFace_of_type rfl rfl rfl rfl rfl) fun projection ↦
      agree_spelled_query h hb false projection
  factory type maker args h shown b hb := by
    -- the only node that is spelled in another way, and only where no projection reads it
    cases shown with
    | true => exact agree_factory type maker (agree_spelledExprs h hb)
    | false =>
        obtain rfl : b = false := by simpa using hb
        exact agree_factory_row type maker (agree_spelledExprs h nofun)
  template type t args h _ _ hb := agree_template type t (agree_spelledExprs h hb)
  root type name _ _ _ := s.agree_rootStep type name
  property type parent name h shown b hb :=
    agree_propertyStep type parent.type_spelled.symm (h shown b hb) name
  listValue type parent index h hi shown b hb :=
    agree_step (Path.sameFace_spelled (.listValue type parent index))
      (.cons (h shown b hb) (.cons (hi shown b hb) .nil))
  listIndex type parent index h shown b hb :=
    agree_step (Path.sameFace_spelled (.listIndex type parent index))
      (.cons (h shown b hb) (.cons (s.agree_count index) .nil))
  mapValue type parent key h hk shown b hb :=
    agree_step (Path.sameFace_spelled (.mapValue type parent key))
      (.cons (h shown b hb) (.cons (hk shown b hb) .nil))
  mapKey type parent key h shown b hb :=
    agree_step (Path.sameFace_spelled (.mapKey type parent key))
      (.cons (h shown b hb) (.cons (s.agree_value key) .nil))
  collectionAny type parent h shown b hb :=
    agree_step (Path.sameFace_spelled (.collectionAny type parent)) (.cons (h shown b hb) .nil)

theorem keepsText (s : Setup) (e : Expr) : s.KeepsText e := s.hereditary_keepsText.of_expr e

/-! ## Requests -/

theorem agree_whereClause (q : Query Expr) :
    Rendering.Agree false false (s.whereClause q) (s.whereClause (q.spelled s.profile false)) := by
  have hwhere := agree_clause "\nwhere " (rel_spelledExpr? (e := q.filter)
    fun a _ ↦ s.keepsText a)
  rw [Option.map_map, Option.map_map] at hwhere
  cases q
  exact hwhere

/-- Deletes and updates work on the first source of a query, or have none. -/
theorem joins_spelled_cases (q : Query Expr) :
    (q.joins = [] ∧ (q.spelled s.profile false).joins = []) ∨
      ∃ j js k ks, q.joins = j :: js ∧ (q.spelled s.profile false).joins = k :: ks ∧
        Rendering.Agree false false (s.source (s.operand j.target))
          (s.source (s.operand k.target)) := by
  obtain ⟨projection, joins, filter, groupBy, having, orderBy, modifiers, distinct, unique, flags,
    params⟩ := q
  cases joins with
  | nil => exact .inl ⟨rfl, rfl⟩
  | cons j joins =>
      exact .inr ⟨j, joins, _, _, rfl, rfl, agree_source (s.keepsText j.target _ false nofun)⟩

theorem agree_delete (q : Query Expr) :
    Rendering.Agree false false (s.delete q) (s.delete (q.spelled s.profile false)) := by
  unfold delete
  rcases joins_spelled_cases (s := s) q with ⟨hj, hk⟩ | ⟨j, js, k, ks, hj, hk, hjk⟩
  · rw [hj, hk]
    exact (isScopeFree_fail _).agree
  · rw [hj, hk]
    exact ((isScopeFree_text _).agree.append hjk).append (agree_whereClause q)

theorem agree_assignment (a : Path × Expr) :
    Rendering.Agree false false (s.assignment a)
      (s.assignment (a.1.spelled s.profile false, a.2.spelled s.profile false)) := by
  have hpath := s.hereditary_keepsText.of_path a.1 false false nofun
  have hvalue := s.keepsText a.2 false false nofun
  have hnull : (a.2.spelled s.profile false).value? = a.2.value? := by
    have hface := hvalue.value?
    rw [Operand.value?, Operand.value?, expr_operand, expr_operand] at hface
    exact hface.symm
  have hleft := hpath.render.append (isScopeFree_text " = ").agree
  unfold assignment
  dsimp only
  rw [hnull]
  split
  · exact hleft.append (isScopeFree_text "null").agree
  · exact hleft.append hvalue.render

theorem agree_update (q : Query Expr) (assignments : List (Path × Expr)) :
    Rendering.Agree false false (s.update q assignments)
      (s.update (q.spelled s.profile false)
        (assignments.map fun a ↦ (a.1.spelled s.profile false, a.2.spelled s.profile false))) := by
  have hset : Rendering.Agree false false (.commas (assignments.map s.assignment))
      (.commas ((assignments.map fun a ↦
        (a.1.spelled s.profile false, a.2.spelled s.profile false)).map s.assignment)) := by
    rw [List.map_map]
    exact .separated ", " (forall₂_map_self fun a _ ↦ agree_assignment a)
  unfold update
  rw [List.isEmpty_map]
  rcases joins_spelled_cases (s := s) q with ⟨hj, hk⟩ | ⟨j, js, k, ks, hj, hk, hjk⟩
  · rw [hj, hk]
    exact (isScopeFree_fail _).agree
  · rw [hj, hk]
    dsimp only
    split
    · exact (isScopeFree_fail _).agree
    · exact ((((isScopeFree_text _).agree.append hjk).append (isScopeFree_text _).agree).append
        hset).append (agree_whereClause q)

theorem agree_rowSource (source : RowSource) :
    Rendering.Agree false false (s.rowSource source) (s.rowSource (source.spelled s.profile)) := by
  cases source with
  | query q =>
      exact (isScopeFree_text "\n").agree.append
        (agree_spelled_query (b := false) (s.hereditary_keepsText.of_query q) nofun false none)
  | rows rows =>
      unfold RowSource.spelled rowSource
      dsimp only
      rw [List.isEmpty_map]
      split
      · exact (isScopeFree_fail _).agree
      · rw [List.map_map]
        refine (isScopeFree_text _).agree.append
          (.separated ", " (forall₂_map_self fun row _ ↦ .between "(" ")" ?_))
        rw [List.map_map]
        exact .separated ", "
          (forall₂_map_self fun e _ ↦ (s.keepsText e false false nofun).render)

theorem agree_rendering (s : Setup) (r : Request) :
    Rendering.Agree false false (r.rendering s) ((r.spelled s.profile).rendering s) := by
  cases r with
  | query q forCount projection =>
      exact agree_spelled_query (b := false) (s.hereditary_keepsText.of_query q) nofun forCount
        projection
  | expr e => exact (s.keepsText e false false nofun).render
  | delete q => exact agree_delete q
  | update q assignments => exact agree_update q assignments
  | insert root columns source =>
      simp only [Request.spelled, Request.rendering, insert]
      split
      · exact .refl _
      · exact (Rendering.Agree.refl _).append (agree_rowSource source)
  | merge root keys columns source =>
      simp only [Request.spelled, Request.rendering, merge]
      split
      · exact (Rendering.Agree.refl _).append (agree_rowSource source)
      · exact .refl _

end Setup

namespace Serializer

/-- A statement is written as if every factory that stands outside of projections were the template
of a row, which has its items in one pair of parentheses in whatever slot it stands. -/
theorem serialize_spelled (s : Serializer) (r : Request) :
    s.serialize (r.spelled s.dialect.toProfile) = s.serialize r ∧
    ∀ (type : ValueType) (items : List Expr) (operation : Op → List Operand → Operand)
      (pattern : String) (precedence : Int) (before behind : List Operand),
      s.setup.element operation pattern precedence
          (before ++ s.setup.operand (.template type .row items) :: behind) (.arg before.length) =
        (Rendering.commas (items.map s.setup.expr)).parenthesized := by
  refine ⟨?_, fun type items operation pattern precedence before behind ↦ ?_⟩
  · have hmodifiers : (r.spelled s.dialect.toProfile).modifiers = r.modifiers := by
      cases r with
      | query q => cases q; rfl
      | _ => rfl
    have hrendering : (r.spelled s.dialect.toProfile).rendering s.setup {} =
        r.rendering s.setup {} := (s.setup.agree_rendering r false).symm
    rw [serialize_eq, serialize_eq, hmodifiers, statement, statement, hrendering]
  · have hitems : (s.setup.operands items).map Operand.render = items.map s.setup.expr := by
      rw [Setup.operands_eq_map, List.map_map]
      rfl
    rw [Setup.element, Setup.element.withArg, List.getElem?_append_right (Nat.le_refl _),
      Nat.sub_self, List.getElem?_cons_zero, ← hitems, ← Setup.render_row type]
    exact Setup.argument_leaf precedence _ _

end Serializer

/-! ## Rows in a projection -/

def catColumns : List Expr :=
  [.path (.property .string (.entity "Cat" "cat") "name"),
    .path (.property .i32 (.entity "Cat" "cat") "weight")]

/-- Whether a row of every cat is equal to itself. -/
def equalRows (row : Expr) : Query Expr := { catRows [] with projection := [row.eq row] }

namespace Setup

variable {s : Setup} {text : String}

/-- In a projection the items of a row stand without parentheses. -/
theorem writes_factory (type : ValueType) (maker : Factory) {xs : List Operand}
    (h : Writes (.commas (xs.map Operand.render)) text) {change : Scope → Scope}
    (hchange : ∀ scope, (change scope).inProjection = true) :
    Writes ((factory type maker xs).render.within change) text := by
  intro scope
  obtain ⟨texts, hitems, htext⟩ := h (change scope)
  refine ⟨texts, ?_, htext⟩
  rw [← hitems]
  exact if_pos (hchange scope)

theorem writes_row (type : ValueType) {items : List Operand}
    (h : Writes (.commas (items.map Operand.render)) text) :
    Writes (s.template type .row items).render ("(" ++ text ++ ")") := by
  rw [render_row]
  exact h.parenthesized

/-- An expression that is compared with itself. -/
theorem writes_eq_self (heq : s.profile.registry.get? (.op .eq) =
      some ⟨⟨"{0} = {1}", [.arg 0, .text " = ", .arg 1]⟩, Op.eq.precedence, none⟩)
    (hsql : s.profile.family = .sql) {e : Expr} {r : Rendering} (hconstant : e.isConstant = false)
    (hleaf : s.operand e = .leaf e r) {shown : Bool}
    (h : ∀ wrap, Writes (r.within fun _ ↦ ⟨shown, wrap⟩) text) :
    Writes ((s.operand (e.eq e)).render.within fun _ ↦ ⟨shown, false⟩)
      (text ++ (" = " ++ text)) := by
  have hargs : ∀ a ∈ [s.operand e, s.operand e], a.expr.isConstant = false := by
    simpa [expr_operand] using hconstant
  have hrender : (s.operand (e.eq e)).render =
      s.inside .eq (s.unchanged .eq [s.operand e, s.operand e]) := by
    change s.operationRendering (.op .eq) [s.operand e, s.operand e] = _
    rw [operationRendering, hsql]
    rfl
  have hargument : s.argument Op.eq.precedence (s.operand e) = r := by
    rw [hleaf]
    exact argument_leaf _ _ _
  have hwrites := h (s.profile.wrapsElements .eq)
  have hbody := hwrites.append ((Writes.text " = ").append (hwrites.append .empty))
  rw [String.append_empty] at hbody
  rw [hrender, unchanged_eq hargs, plain_eq heq, apply_binary, hargument]
  exact hbody

/-- In SQL, a select of one expression from all cats. -/
theorem writes_query_catRows (hs : s.HasPaths) (hsql : s.profile.family = .sql) {e : Expr}
    (h : Writes ((s.operand e).render.within fun _ ↦ ⟨true, false⟩) text) :
    Writes (s.query (s.queryOperands { catRows [] with projection := [e] }) false none)
      ("select " ++ text ++
        ("\nfrom " ++ (s.table (.entity "Cat") ++ " " ++ s.profile.quoteIdent "cat"))) := by
  have hname : s.entityName (.entity "Cat") = s.table (.entity "Cat") := by
    rw [entityName, hsql]
  have hjoined := writes_joined_catRows hs
  have hordering : s.ordering (s.queryOperands { catRows [] with projection := [e] }) =
      .empty := by
    have hlimits : s.limits {} = .empty := by
      unfold limits
      cases s.profile.pagination <;> rfl
    change Rendering.concat [.empty, .empty, .empty, s.limits {}] = .empty
    rw [hlimits]
    rfl
  have hfront : Writes (front (s.queryOperands { catRows [] with projection := [e] }) none)
      "select " := by
    have hword := Writes.empty.append ((Writes.text "select ").append .empty)
    rwa [String.empty_append, String.append_empty] at hword
  have hback : Writes (s.back (s.queryOperands { catRows [] with projection := [e] }) none)
      text := by
    have hshown := h.append .empty
    rwa [String.append_empty] at hshown
  have hbehind : Writes (s.behind (s.queryOperands { catRows [] with projection := [e] }))
      ("\nfrom " ++ (s.table (.entity "Cat") ++ " " ++ s.profile.quoteIdent "cat")) := by
    have hclauses := ((Writes.text "\nfrom ").append (hjoined.append .empty)).append .empty
    have hall := ((hclauses.append .empty).append .empty).within fun _ ↦ ⟨false, false⟩
    simp only [String.append_empty, hname] at hall
    rw [behind, hordering]
    exact hall
  have hquery := query_of_not_isRestricting (s := s) (m := {}) rfl
    (s.queryOperands { catRows [] with projection := [e] }) none
  have hall := hfront.append (hback.append hbehind)
  rw [← select_eq hsql, ← String.append_assoc] at hall
  exact hquery ▸ hall

/-- Names and weights, without quotes. -/
theorem writes_catColumns (hs : s.HasPaths) {d : Dialect} (hsetup : s = { profile := d.toProfile })
    (hquote : d.quote = none) :
    Writes (.commas ((s.operands catColumns).map Operand.render)) "cat.name, cat.weight" := by
  have hcolumn : ∀ type name, type.isCollectionLike = false →
      Writes (s.pathOperand (.property type (.entity "Cat" "cat") name)).render
        ("cat" ++ "." ++ name) := by
    intro type name htype
    subst hsetup
    rw [← pathText_property_root hquote type (.entity "Cat") "cat" name]
    exact (writes_pathOperand hs rfl).2 htype
  exact ((hcolumn .string "name" rfl).append (.text ", ")).append (hcolumn .i32 "weight" rfl)

end Setup

theorem Template.parse_eq : Template.parse "{0} = {1}" =
    .ok ⟨"{0} = {1}", [.arg 0, .text " = ", .arg 1]⟩ := rfl

namespace Serializer

/-- In a projection, two rows that are compared run on into a list of three columns. Rows that are
written as templates stay two operands. -/
theorem exists_query_equalRows : ∃ d, ("h2", .ok d) ∈ Dialect.known ∧ ∃ sources : String,
    ({ dialect := d } : Serializer).query (equalRows (.tuple catColumns)) false none =
      .ok ⟨"select cat.name, cat.weight = cat.name, cat.weight" ++ sources, [], {}⟩ ∧
    ({ dialect := d } : Serializer).query (equalRows (.template .object .row catColumns)) false
        none =
      .ok ⟨"select (cat.name, cat.weight) = (cat.name, cat.weight)" ++ sources, [], {}⟩ ∧
    "select cat.name, cat.weight = cat.name, cat.weight" ++ sources ≠
      "select (cat.name, cat.weight) = (cat.name, cat.weight)" ++ sources := by
  have hlisted : ("h2", Dialect.h2) ∈ Dialect.known := by simp [Dialect.known]
  obtain ⟨d, hd⟩ := Dialect.exists_of_mem_known _ hlisted
  have hbuild : Dialect.h2 = .ok d := hd
  have hmem : ("h2", Except.ok d) ∈ Dialect.known := hbuild ▸ hlisted
  have hknown : d.IsKnown := ⟨"h2", hmem⟩
  have hquote : d.quote = none := Dialect.quote_of_build hbuild rfl
  have hsql : d.family = .sql := Dialect.family_of_build hbuild
  have hpaths : ({ dialect := d } : Serializer).setup.HasPaths := hasPaths_setup hknown
  obtain ⟨t, hparse, heq⟩ : ∃ t, Template.parse "{0} = {1}" = .ok t ∧
      d.registry.get? (.op .eq) = some ⟨t, Op.eq.precedence, none⟩ :=
    hknown.get?_op (by simp [Registry.baseOps]) (by decide)
  obtain rfl := Except.ok.inj (Template.parse_eq.symm.trans hparse)
  have hcolumns := Setup.writes_catColumns hpaths rfl hquote
  have hfactory := Setup.writes_query_catRows hpaths hsql
    (Setup.writes_eq_self heq hsql (e := .tuple catColumns) rfl rfl
      fun wrap ↦ Setup.writes_factory .object .tuple hcolumns (fun _ ↦ rfl))
  have hrow := Setup.writes_query_catRows hpaths hsql
    (Setup.writes_eq_self heq hsql (e := .template .object .row catColumns) rfl rfl
      fun wrap ↦ (Setup.writes_row .object hcolumns).within _)
  have hflat := statement_of_writes (s := { dialect := d }) hfactory {}
  have hkept := statement_of_writes (s := { dialect := d }) hrow {}
  exact ⟨d, hmem, _, hflat, hkept, (String.append_left_inj _).not.mpr (by decide)⟩

end Serializer

end TypedQuery
