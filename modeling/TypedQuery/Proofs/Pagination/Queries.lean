import TypedQuery.Proofs.Building
import TypedQuery.Proofs.Injection.Statements
import TypedQuery.Proofs.Pagination.Separation
import TypedQuery.Proofs.Reading.Rendered

/-!
# Limits can be read from a query

In every known SQL dialect the text and the bindings of a query tell its limits. Where limits are
written behind the word `select` this needs that two modifiers are not written alike: a query may
have the flag for a limit already, and windows are cut off at the largest number of eight bytes.
-/

namespace TypedQuery

open List (Forall₂)
open Rendering (KeptApart)

/-! ## Operands stand for their expressions -/

namespace Setup

mutual

theorem expr_operand (s : Setup) : (e : Expr) → (s.operand e).expr = e
  | .constant c => rfl
  | .param p => rfl
  | .path p => by cases p <;> rfl
  | .operation type operator args =>
      congrArg (Expr.operation type operator) (map_expr_operands s args)
  | .subQuery identity type q => rfl
  | .factory type maker args => congrArg (Expr.factory type maker) (map_expr_operands s args)
  | .template type t args => congrArg (Expr.template type t) (map_expr_operands s args)

theorem map_expr_operands (s : Setup) : (es : List Expr) → (s.operands es).map Operand.expr = es
  | [] => rfl
  | e :: es => congrArg₂ List.cons (expr_operand s e) (map_expr_operands s es)

end

theorem queryOperands_modifiers (s : Setup) (q : Query Expr) (m : Modifiers) :
    s.queryOperands { q with modifiers := m } = { s.queryOperands q with modifiers := m } := by
  cases q
  rfl

theorem joins_queryOperands_ne_nil (s : Setup) {q : Query Expr} (h : q.joins ≠ []) :
    (s.queryOperands q).joins ≠ [] := by
  rw [joins_queryOperands]
  cases hjoins : q.joins with
  | nil => exact absurd hjoins h
  | cons j joins => simp [joinOperands]

end Setup

/-! ## Limits that are written alike -/

namespace Query

/-- The flag by which a limit alone is written. -/
def topFlag (n : UInt64) : Flag Expr :=
  ⟨.afterSelect, .expr (.template .i64 .top [.ofValue (.i64 (counted n))])⟩

/-- Whether modifiers add nothing to a query in dialects that number rows: there is no offset, and
the flag for the limit is there already or a text is given in place of the projection. -/
def AddsNothing (q : Query Expr) (projection : Option String) (m : Modifiers) : Prop :=
  m.offset = none ∧
    ∀ n, m.limit = some n → projection.isSome = true ∨ q.hasFlag (topFlag n) = true

end Query

namespace Dialect

/-- Whether a dialect writes limits behind the word `select` and numbers rows for an offset. -/
def numbersRows (d : Dialect) : Bool :=
  match d.pagination with
  | .topRowNumber _ _ => true
  | _ => false

/-- Whether two modifiers write a query in the same way. -/
def WritesAlike (d : Dialect) (q : Query Expr) (projection : Option String) (m m' : Modifiers) :
    Prop :=
  d.numbersRows = true ∧
    ((q.AddsNothing projection m ∧ q.AddsNothing projection m') ∨ m.SameWindow m')

theorem IsKnown.mark_placeholders {d : Dialect} (h : d.IsKnown) :
    d.placeholders.mark = '$' ∨ d.placeholders.mark = '?' := by
  have hrecipes : ∀ r ∈ recipes, (lastPlaceholders r.2.1.placeholders r.2.2).mark = '$' ∨
      (lastPlaceholders r.2.1.placeholders r.2.2).mark = '?' := by decide
  obtain ⟨r, hr, hbuild⟩ := h.exists_recipe
  rw [placeholders_of_build hbuild]
  exact hrecipes r hr

end Dialect

namespace Setup

variable {s : Setup}

theorem hasFlag_queryOperands (s : Setup) (q : Query Expr) (n : UInt64) :
    (s.queryOperands q).hasFlag (s.topFlag n) = q.hasFlag (Query.topFlag n) := by
  have hflags : ∀ flags : List (Flag Expr),
      (s.flagOperands flags).any (fun f ↦ f.position == (s.topFlag n).position &&
        f.content.eqv (s.topFlag n).content) =
      flags.any fun f ↦ f.position == (Query.topFlag n).position &&
        f.content.eqv (Query.topFlag n).content := by
    intro flags
    induction flags with
    | nil => rfl
    | cons flag flags ih =>
        obtain ⟨position, content⟩ := flag
        cases content with
        | text t => exact congrArg (_ || ·) ih
        | expr e =>
            have hsame : (s.operand e == s.topWord n) =
                (e == .template .i64 .top [.ofValue (.i64 (counted n))]) := by
              change ((s.operand e).expr == _) = _
              rw [expr_operand]
              rfl
            have hhead : (position == .afterSelect && s.operand e == s.topWord n) =
                (position == .afterSelect &&
                  e == .template .i64 .top [.ofValue (.i64 (counted n))]) := by rw [hsame]
            exact congrArg₂ (· || ·) hhead ih
  cases q
  exact hflags _

theorem addsNothing_queryOperands {q : Query Expr} {projection : Option String} {m : Modifiers} :
    s.AddsNothing (s.queryOperands q) projection m ↔ q.AddsNothing projection m := by
  simp only [AddsNothing, Query.AddsNothing, hasFlag_queryOperands]

theorem query_eq_select (h : ∀ top forms, s.profile.pagination ≠ .topRowNumber top forms)
    (q : Query Operand) (forCount : Bool) (projection : Option String) :
    s.query q forCount projection = s.select q forCount projection := by
  unfold query
  split
  · rename_i top forms hp
    exact absurd hp (h top forms)
  · rfl

end Setup

namespace Serializer

variable {s : Serializer} {m m' : Modifiers}

/-- Different limits of one query are kept apart, wherever the query stands. -/
theorem keptApart_query (hknown : s.dialect.IsKnown) (hsql : s.dialect.family = .sql)
    {q : Query Expr} (hjoins : q.joins ≠ []) (projection : Option String) (hm : m.fits = true)
    (hm' : m'.fits = true) (hne : m ≠ m') (halike : ¬ s.dialect.WritesAlike q projection m m') :
    KeptApart s.dialect.placeholders
      (s.setup.query (s.setup.queryOperands { q with modifiers := m }) false projection)
      (s.setup.query (s.setup.queryOperands { q with modifiers := m' }) false projection) := by
  rw [Setup.queryOperands_modifiers s.setup q m, Setup.queryOperands_modifiers s.setup q m']
  cases hknown.paginates hsql with
  | clauses h =>
      have hselect := Setup.query_eq_select (s := s.setup) (by simp [setup, h])
      rw [hselect, hselect]
      exact Setup.keptApart_select
        (Setup.keptApart_clauses (s := s.setup) hknown.mark_placeholders h hm hm' hne) _ _
  | fetching h hstyle =>
      have hselect := Setup.query_eq_select (s := s.setup) (by simp [setup, h])
      rw [hselect, hselect, hstyle]
      exact Setup.keptApart_select (Setup.keptApart_fetching (s := s.setup) h hm hm' hne) _ _
  | numbering h hstyle =>
      have hnumbers : s.dialect.numbersRows = true := by rw [Dialect.numbersRows, h]
      rw [hstyle]
      refine Setup.keptApart_numbering (s := s.setup) ⟨hsql, h⟩
        (Setup.joins_queryOperands_ne_nil _ hjoins) hm hm' hne fun hwrites ↦
          halike ⟨hnumbers, ?_⟩
      rwa [Setup.WritesAlike, Setup.addsNothing_queryOperands,
        Setup.addsNothing_queryOperands] at hwrites

end Serializer

/-- Two outcomes that are statements of one text with equal bindings. -/
inductive SameStatement : Except Error Statement → Except Error Statement → Prop
  | ok {a b : Statement} (text : a.text = b.text)
      (bindings : Forall₂ (fun x y ↦ x.eqv y = true) a.bindings b.bindings) :
      SameStatement (.ok a) (.ok b)

namespace Serializer

variable {s : Serializer} {m m' : Modifiers}

theorem not_sameStatement {r t : Rendering}
    (h : ∀ a b, r {} = .ok a → t {} = .ok b → ¬ Layout.Same s.dialect.placeholders a b) :
    ¬ SameStatement (s.statement m r) (s.statement m' t) := by
  intro hsame
  unfold statement at hsame
  cases hr : r {} with
  | error e =>
      rw [hr] at hsame
      cases hsame
  | ok a =>
      cases ht : t {} with
      | error e =>
          rw [hr, ht] at hsame
          cases hsame
      | ok b =>
          rw [hr, ht] at hsame
          obtain ⟨htext, hbindings⟩ := hsame
          exact h a b hr ht ⟨htext, hbindings⟩

end Serializer

/-! ## Rows of one table -/

/-- A query of the rows of a table, with flags. -/
def catRows (flags : List (Flag Expr)) : Query Expr :=
  { joins := [{ kind := .listed, target := .path (.entity "Cat" "cat") }], flags := flags }

namespace Setup

variable {s : Setup}

theorem render_rootStep (hs : s.HasPaths) (type : ValueType) (name : String)
    (h : type.isCollectionLike = false) :
    (s.rootStep type name).render = .text (s.profile.quoteIdent name) ++ .empty := by
  have hget : s.profile.registry.get? (.path (Path.root type name).kind) = _ := hs.root
  have hbody : (s.apply ⟨"{0s}", [.inlined 0]⟩ (-1) [s.string (s.profile.quoteIdent name)]).within
      ({ · with wrapElements := false }) = .text (s.profile.quoteIdent name) ++ .empty := rfl
  funext scope
  rw [← hbody]
  simp [rootStep, step, hget, Operand.render, Path.type, h]

/-- The chunks of all cats with a limit alone. -/
def topCats (s : Setup) (n : UInt64) : List Chunk :=
  .text "select " :: topChunks n ++ [.text "*", .text "\nfrom ", .text "",
    .text (s.table (.entity "Cat") ++ " "), .text (s.profile.quoteIdent "cat"), .text ""]

theorem joined_catRows (s : Setup) :
    s.joined false ⟨.listed, s.operand (.path (.entity "Cat" "cat")), none, false, false⟩ =
      .text "" ++ (.text (s.entityName (.entity "Cat") ++ " ") ++
        (s.operand (.path (.entity "Cat" "cat"))).render) ++ .text "" ++ .empty := by
  simp only [joined, Bool.and_false]
  rfl

theorem writes_joined_catRows (hs : s.HasPaths) :
    (s.joined false ⟨.listed, s.operand (.path (.entity "Cat" "cat")), none, false, false⟩).Writes
      (s.entityName (.entity "Cat") ++ " " ++ s.profile.quoteIdent "cat") := by
  have hname : (s.operand (.path (.entity "Cat" "cat"))).render.Writes
      (s.profile.quoteIdent "cat") := (writes_pathOperand hs rfl).2 rfl
  have hsource := (Rendering.Writes.text (s.entityName (.entity "Cat") ++ " ")).append hname
  have hjoined := (((Rendering.Writes.text "").append hsource).append (.text "")).append .empty
  rw [joined_catRows]
  simpa using hjoined

theorem select_catRows (hs : s.HasPaths) (hn : s.NumbersRows) (n : UInt64) :
    s.select (s.queryOperands (catRows [Query.topFlag n])) false none {} = .ok (s.topCats n) := by
  have hfront : front (s.queryOperands (catRows [Query.topFlag n])) none {} =
      .ok (.text "select " :: topChunks n) := by
    have hflag := front_topFlag (s := s) (s.queryOperands (catRows [])) n
    refine (congrFun hflag {}).trans ?_
    rw [Rendering.append_apply, Rendering.within, render_topWord]
    rfl
  have hname : s.entityName (.entity "Cat") = s.table (.entity "Cat") := by
    rw [entityName, hn.family]
  have hroot : (s.operand (.path (.entity "Cat" "cat"))).render =
      .text (s.profile.quoteIdent "cat") ++ .empty := render_rootStep hs (.entity "Cat") "cat" rfl
  have hclauses : s.clauses (s.queryOperands (catRows [Query.topFlag n])) false =
      .text "\nfrom " ++ (s.joined false
        ⟨.listed, s.operand (.path (.entity "Cat" "cat")), none, false, false⟩ ++ .empty) ++
          .empty := rfl
  have hordering : s.ordering (s.queryOperands (catRows [Query.topFlag n])) = .empty := by
    have hlimits : s.limits (s.queryOperands (catRows [Query.topFlag n])).modifiers = .empty := by
      rw [limits, hn.pagination]
    rw [ordering, hlimits]
    rfl
  have hback : s.back (s.queryOperands (catRows [Query.topFlag n])) none = .text "*" ++ .empty := by
    have hprojected : s.projected (s.queryOperands (catRows [Query.topFlag n])) = .text "*" := by
      unfold projected
      rw [hn.family]
      rfl
    rw [back, shown, hprojected]
    rfl
  rw [select_eq hn.family, behind, hclauses, joined_catRows, hname, hroot, hordering, hback,
    Rendering.append_apply, hfront]
  rfl

theorem joins_catRows (s : Setup) (flags : List (Flag Expr)) :
    (s.queryOperands (catRows flags)).joins ≠ [] :=
  s.joins_queryOperands_ne_nil (by simp [catRows])

theorem query_catRows (hs : s.HasPaths) (hn : s.NumbersRows) (n : UInt64) :
    s.query (s.queryOperands { catRows [] with modifiers := { limit := some n } }) false none {} =
      .ok (s.topCats n) := by
  have hlimited := query_limited hn (s.joins_catRows []) n none
  refine (congrFun hlimited {}).trans ?_
  have hadded : (core (s.queryOperands (catRows []))).addFlag (s.topFlag n) =
      s.queryOperands (catRows [Query.topFlag n]) := rfl
  rw [hadded, Rendering.append_apply, select_catRows hs hn]
  simp [Query.flagText, Query.flagsAt, Rendering.concat, Rendering.empty, Except.bind, Except.map,
    catRows, queryOperands, flagOperands]

/-- The flag for a limit is not added twice. -/
theorem query_catRows_topFlag (hn : s.NumbersRows) (n : UInt64) (m : Modifiers)
    (hm : m = {} ∨ m = { limit := some n }) :
    s.query (s.queryOperands { catRows [Query.topFlag n] with modifiers := m }) false none =
      s.select (s.queryOperands (catRows [Query.topFlag n])) false none := by
  rcases hm with rfl | rfl
  · exact query_of_not_isRestricting rfl (s.queryOperands (catRows [Query.topFlag n])) none
  · have hflag : (core (s.queryOperands (catRows [Query.topFlag n]))).hasFlag (s.topFlag n) =
        true := by
      rw [hasFlag_core, hasFlag_queryOperands]
      have hsame : (Query.topFlag n).content.eqv (Query.topFlag n).content = true := by
        change Expr.eqv (.template .i64 .top [.ofValue (.i64 (counted n))])
          (.template .i64 .top [.ofValue (.i64 (counted n))]) = true
        simp [Expr.eqv, eqvArgs, Expr.ofValue, Constant.eqv]
      simp [Query.hasFlag, catRows, hsame]
    refine (query_limited hn (s.joins_catRows [Query.topFlag n]) n none).trans ?_
    rw [Query.addFlag_of_hasFlag hflag]
    exact Rendering.append_empty _

end Setup

theorem Dialect.not_writesAlike_catRows (d : Dialect) :
    ¬ d.WritesAlike (catRows []) none { limit := some 5 } { limit := some 7 } := by
  rintro ⟨-, ⟨h, -⟩ | ⟨_, _, _, h, -⟩⟩
  · simpa [Query.hasFlag, catRows] using h.2 5 rfl
  · cases h

theorem Dialect.exists_sqlServer2005 : ∃ d : Dialect, d.IsKnown ∧ d.quote = none ∧
    ({ dialect := d } : Serializer).setup.NumbersRows ∧ d.placeholders = .anonymous := by
  have hmem : ("sql_server_2005", sqlServer2005) ∈ known := by simp [known]
  obtain ⟨d, hd⟩ := exists_of_mem_known _ hmem
  have hbuild : sqlServer2005 = .ok d := hd
  have hforms := pagination_of_build hbuild rfl
  exact ⟨d, ⟨_, hbuild ▸ hmem⟩, quote_of_build hbuild rfl,
    ⟨family_of_build hbuild, (Except.ok.inj hforms).symm⟩, placeholders_of_build hbuild⟩

namespace Serializer

variable {s : Serializer} {m m' : Modifiers}

theorem hasPaths_setup (hknown : s.dialect.IsKnown) : s.setup.HasPaths :=
  ⟨hknown.get?_root, hknown.get?_property⟩

def topCatsText (s : Serializer) : String :=
  "select top (?) *\nfrom " ++ s.setup.table (.entity "Cat") ++ " cat"

theorem layout_topCats (hquote : s.dialect.quote = none) (n : UInt64) :
    layout .anonymous (s.setup.topCats n) = (s.topCatsText, [.value (.i64 (counted n))]) := by
  have hquoted : s.setup.profile.quoteIdent "cat" = "cat" := by
    simp [Profile.quoteIdent, setup, hquote]
  have htext : ∀ table : String, String.join ["select ", "top (", "?", ") ", "*", "\nfrom ", "",
      table ++ " ", "cat", ""] = "select top (?) *\nfrom " ++ table ++ " cat" := fun table ↦
    String.toList_inj.mp (by simp)
  simp only [layout, Setup.topCats, Setup.topChunks, Setup.boundCount, hquoted,
    List.cons_append, List.nil_append]
  exact congrArg (Prod.mk · [Binding.value (.i64 (counted n))]) (htext _)

theorem statement_topCats (hquote : s.dialect.quote = none)
    (hstyle : s.dialect.placeholders = .anonymous) {r : Rendering} {n : UInt64}
    (hr : r {} = .ok (s.setup.topCats n)) :
    s.statement m r = .ok ⟨s.topCatsText, [.value (.i64 (counted n))], m⟩ := by
  rw [statement, hr, hstyle]
  simp only [Except.map, layout_topCats hquote]

/-- In the known SQL dialects, the statement of a query from some source tells its limits. -/
theorem not_sameStatement_of_modifiers_ne (hknown : s.dialect.IsKnown)
    (hsql : s.dialect.family = .sql) (q : Query Expr) (hjoins : q.joins ≠ [])
    (projection : Option String) (hm : m.fits = true) (hm' : m'.fits = true) (hne : m ≠ m')
    (halike : ¬ s.dialect.WritesAlike q projection m m') :
    ¬ SameStatement (s.query { q with modifiers := m } false projection)
      (s.query { q with modifiers := m' } false projection) :=
  not_sameStatement fun _ _ ↦
    (keptApart_query hknown hsql hjoins projection hm hm' hne halike).not_same

/-- Two limits of all cats are written with one text and are told apart by what they bind. -/
theorem exists_query_catRows : ∃ s : Serializer, s.dialect.IsKnown ∧ s.dialect.family = .sql ∧
    ¬ s.dialect.WritesAlike (catRows []) none { limit := some 5 } { limit := some 7 } ∧
    (∀ n, s.query { catRows [] with modifiers := { limit := some n } } false none =
      .ok ⟨s.topCatsText, [.value (.i64 (counted n))], { limit := some n }⟩) ∧
    ¬ SameStatement (s.query { catRows [] with modifiers := { limit := some 5 } } false none)
      (s.query { catRows [] with modifiers := { limit := some 7 } } false none) := by
  obtain ⟨d, hknown, hquote, hn, hstyle⟩ := Dialect.exists_sqlServer2005
  have halike := Dialect.not_writesAlike_catRows d
  refine ⟨{ dialect := d }, hknown, hn.family, halike, fun n ↦ ?_, ?_⟩
  · exact statement_topCats hquote hstyle (Setup.query_catRows (hasPaths_setup hknown) hn n)
  · exact not_sameStatement_of_modifiers_ne hknown hn.family (catRows []) (by simp [catRows]) none
      rfl rfl (by decide) halike

/-- A query that has the flag for a limit already is written in the same way with that limit. -/
theorem exists_sameStatement_topFlag : ∃ s : Serializer, s.dialect.IsKnown ∧
    s.dialect.family = .sql ∧ ∃ (q : Query Expr) (m m' : Modifiers), q.joins ≠ [] ∧
      m.fits = true ∧ m'.fits = true ∧ m ≠ m' ∧
      SameStatement (s.query { q with modifiers := m } false none)
        (s.query { q with modifiers := m' } false none) := by
  obtain ⟨d, hknown, hquote, hn, hstyle⟩ := Dialect.exists_sqlServer2005
  set s : Serializer := { dialect := d }
  refine ⟨s, hknown, hn.family, catRows [Query.topFlag 5], { limit := some 5 }, {},
    by simp [catRows], rfl, rfl, by decide, ?_⟩
  have hquery : ∀ m : Modifiers, m = {} ∨ m = { limit := some 5 } →
      s.query { catRows [Query.topFlag 5] with modifiers := m } false none =
        .ok ⟨s.topCatsText, [.value (.i64 (counted 5))], m⟩ := by
    intro m hm
    refine statement_topCats hquote hstyle ?_
    rw [Setup.query_catRows_topFlag hn 5 m hm]
    exact Setup.select_catRows (hasPaths_setup hknown) hn 5
  rw [hquery _ (.inr rfl), hquery _ (.inl rfl)]
  exact .ok rfl (List.forall₂_same.mpr fun b _ ↦ b.eqv_refl)

end Serializer

end TypedQuery
