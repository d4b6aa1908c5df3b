import TypedQuery.Proofs.Contexts.Operations
import TypedQuery.Rendering.Select

/-!
# Selects in one pass

A visitor writes a select clause by clause into one context, with the flags of the query at their
places. Over drafts that put renderings into the context as a whole, the select is put in as a
whole, whichever flags its clauses have left set.
-/

namespace TypedQuery

namespace Visitor

/-! ## The visitor -/

def flag (flag : Flag Draft) : Writer :=
  match flag.content with
  | .text text => .text text
  | .expr a => a.write

def flagText (q : Query Draft) (position : Position) : Writer :=
  .concat ((q.flagsAt position).map flag)

def items (as : List Draft) : Writer := .commas (as.map Draft.write)

def source (v : Visitor) (target : Draft) : Writer :=
  match target.path? with
  | some p =>
      if p.isRoot && p.type.isEntity then .text (v.entityName p.type ++ " ") ++ target.write
      else target.write
  | none => target.write

def joined (v : Visitor) (forCount : Bool) (j : Join Draft) : Writer :=
  let fetches := v.profile.family == .jpql && !forCount
  let condition := match j.condition with
    | some c => .text (if v.profile.capabilities.withForOn then " with " else " on ") ++ c.write
    | none => .empty
  .text (if fetches && j.fetch then "fetch " else "") ++ v.source j.target ++
    .text (if fetches && j.fetchAll then " fetch all properties" else "") ++ condition

def sources (v : Visitor) (forCount : Bool) : List (Join Draft) → Writer
  | [] => .empty
  | first :: others =>
      v.joined forCount first ++ .concat (others.map fun j ↦
        .text (v.profile.joinKeywords.keyword j.kind) ++ v.joined forCount j)

def orderKey (v : Visitor) (key : OrderKey Draft) : Writer :=
  key.target.write ++ .text (key.directionText v.profile.capabilities.nullsOrdering)

def limits (v : Visitor) (m : Modifiers) : Writer :=
  match v.profile.pagination with
  | .limitOffset forms | .fetchFirst forms =>
      match m.limit, m.offset with
      | some limit, none => v.apply forms.limit (-1) [v.count limit]
      | none, some offset => v.apply forms.offset (-1) [v.count offset]
      | some limit, some offset => v.apply forms.both (-1) [v.count limit, v.count offset]
      | none, none => .empty
  | _ => .empty

def countTarget (v : Visitor) (q : Query Draft) : Writer :=
  match v.profile.family, q.projection with
  | .sql, [] => .text "*"
  | .sql, as => items as
  | .jpql, as =>
      if as.head?.all (·.expr.isFactory) then
        match q.joins with
        | [] => .fail .missingRoot
        | j :: _ => j.target.write
      else items as

def selectWord (q : Query Draft) : Writer :=
  if (q.flagsAt .startOverride).isEmpty then
    .text (if q.distinct then "select distinct " else "select ")
  else flagText q .startOverride

def projected (v : Visitor) (q : Query Draft) : Writer :=
  match q.projection, v.profile.family, q.joins with
  | [], .sql, _ => .text "*"
  | [], .jpql, [] => .fail .missingRoot
  | [], .jpql, j :: _ => j.target.write
  | as, _, _ => items as

def head (v : Visitor) (q : Query Draft) (forCount : Bool) (projection : Option String) : Writer :=
  match projection, forCount with
  | some text, _ => .text ("select " ++ text)
  | none, true =>
      (v.countTarget q).between (if q.distinct then "select count(distinct " else "select count(")
        ")"
  | none, false => selectWord q ++ flagText q .afterSelect ++ v.projected q

def clause (keyword : String) : Option Writer → Writer
  | some w => .text keyword ++ w
  | none => .empty

def listClause (keyword separator : String) (ws : List Writer) : Writer :=
  if ws.isEmpty then .empty else .text keyword ++ .separated separator ws

def clauses (v : Visitor) (q : Query Draft) (forCount : Bool) : Writer :=
  .concat
    [clause "\nfrom " (if q.joins.isEmpty then none else some (v.sources forCount q.joins)),
      flagText q .beforeFilters,
      clause "\nwhere " (q.filter.map Draft.write),
      flagText q .afterFilters,
      flagText q .beforeGroupBy,
      listClause "\ngroup by " ", " (q.groupBy.map Draft.write),
      flagText q .afterGroupBy,
      flagText q .beforeHaving,
      clause "\nhaving " (q.having.map Draft.write),
      flagText q .afterHaving]

def ordering (v : Visitor) (q : Query Draft) : Writer :=
  .concat
    [flagText q .beforeOrder,
      listClause "\norder by " ", " (q.orderBy.map v.orderKey),
      flagText q .afterOrder,
      v.limits q.modifiers]

def select (v : Visitor) (q : Query Draft) (forCount : Bool) (projection : Option String) :
    Writer :=
  if v.profile.family == .jpql && q.joins.isEmpty then .fail .missingRoot
  else
    .select (flagText q .start) (v.head q forCount projection ++ flagText q .afterProjection)
      (v.clauses q forCount ++ (if forCount then .empty else v.ordering q) ++ flagText q .finish)

def numberingElements (nullsOrdering : Bool) (index : Nat) (before : String) :
    List (OrderKey Draft) → List Element
  | [] => [.text (before ++ ")")]
  | key :: keys =>
      let direction := key.directionText nullsOrdering
      .text before :: .arg index :: numberingElements nullsOrdering (index + 1)
        (if keys.isEmpty then direction else direction ++ ", ") keys

def rowNumber (v : Visitor) (orderBy : List (OrderKey Draft)) : Draft :=
  let start := if orderBy.isEmpty then "row_number() over (" else "row_number() over (order by "
  v.template .i64
    (.ofElements (numberingElements v.profile.capabilities.nullsOrdering 0 start orderBy))
    (orderBy.map OrderKey.target)

def rowNumberColumn (v : Visitor) (orderBy : List (OrderKey Draft)) : Draft :=
  let name := v.rootStep .i64 "row_number"
  v.template .i64 (.ofElements [.text ", ", .arg 0])
    [v.operation .i64 (.op .aliased) [v.rowNumber orderBy, name]]

def rowNumbered (v : Visitor) (top : Template) (forms : LimitForms Template) (q : Query Draft)
    (projection : Option String) : Writer :=
  let inner := { q.removeFlagsAt .finish with modifiers := {} }
  let body := match q.modifiers.limit, q.modifiers.offset with
    | some limit, none =>
        let word := v.template .i64 top [v.count limit]
        v.select (inner.addFlag ⟨.afterSelect, .expr word⟩) false projection
    | limit, some offset =>
        let column := v.rowNumberColumn q.orderBy
        let numbered :=
          { inner.addFlag ⟨.afterProjection, .expr column⟩ with orderBy := [] }
        let window := match limit with
          | some limit =>
              v.apply forms.both (-1) [v.count offset, v.count (Setup.cappedSum offset limit)]
          | none => v.apply forms.offset (-1) [v.count offset]
        .text "with inner_query as \n(\n  " ++ v.select numbered false projection ++
          .text "\n)\nselect * \nfrom inner_query\nwhere " ++ window
    | none, none => v.select inner false projection
  body ++ flagText q .finish

def query (v : Visitor) (q : Query Draft) (forCount : Bool) (projection : Option String) :
    Writer :=
  match v.profile.pagination with
  | .topRowNumber top forms =>
      if !forCount && !q.joins.isEmpty && q.modifiers.isRestricting then
        v.rowNumbered top forms q projection
      else v.select q forCount projection
  | _ => v.select q forCount projection

/-! ## Renderings of selects -/

variable {v : Visitor} (q : Query Operand)

theorem writer_flag (flag : Flag Operand) :
    flag.render.writer v.placeholders = Visitor.flag (flag.map (Operand.draft v.placeholders)) := by
  obtain ⟨position, content⟩ := flag
  cases content with
  | text text => rfl
  | expr a => exact (a.write_draft v.placeholders).symm

theorem writer_flagText (position : Position) :
    (q.flagText position).writer v.placeholders =
      flagText (q.map (Operand.draft v.placeholders)) position := by
  simp only [Query.flagText, flagText, Rendering.writer_concat, Query.flagsAt_map, List.map_map,
    Function.comp_def, writer_flag]

theorem writer_items (as : List Operand) :
    (Query.items as).writer v.placeholders = items (as.map (Operand.draft v.placeholders)) := by
  simp [Query.items, items, Function.comp_def]

theorem writer_source (target : Operand) :
    (v.toSetup.source target).writer v.placeholders =
      v.source (target.draft v.placeholders) := by
  unfold Setup.source source
  rw [Operand.path?_draft, Operand.write_draft]
  cases target.path? with
  | none => rfl
  | some p =>
      dsimp only
      split <;> simp

theorem writer_joined (forCount : Bool) (j : Join Operand) :
    (v.toSetup.joined forCount j).writer v.placeholders =
      v.joined forCount (j.map (Operand.draft v.placeholders)) := by
  obtain ⟨kind, target, condition, fetch, fetchAll⟩ := j
  cases condition <;> simp [Setup.joined, joined, Join.map, writer_source]

theorem writer_sources (forCount : Bool) (js : List (Join Operand)) :
    (v.toSetup.sources forCount js).writer v.placeholders =
      v.sources forCount (js.map (Join.map (Operand.draft v.placeholders))) := by
  cases js with
  | nil => rfl
  | cons j js =>
      simp [Setup.sources, sources, writer_joined, Function.comp_def, Join.map]

theorem writer_orderKey (key : OrderKey Operand) :
    (v.toSetup.orderKey key).writer v.placeholders =
      v.orderKey (key.map (Operand.draft v.placeholders)) := by
  simp [Setup.orderKey, orderKey, OrderKey.map, OrderKey.directionText]

theorem writer_limits (m : Modifiers) :
    (v.toSetup.limits m).writer v.placeholders = v.limits m := by
  unfold Setup.limits limits
  obtain ⟨limit, offset⟩ := m
  cases v.profile.pagination <;> cases limit <;> cases offset <;>
    simp [writer_apply, draft_count]

theorem writer_countTarget :
    (v.toSetup.countTarget q).writer v.placeholders =
      v.countTarget (q.map (Operand.draft v.placeholders)) := by
  unfold Setup.countTarget countTarget
  cases v.profile.family with
  | jpql =>
      have hhead : (q.map (Operand.draft v.placeholders)).projection.head?.all
          (·.expr.isFactory) = q.projection.head?.all (·.expr.isFactory) := by
        simp [Query.map, Option.all_map]
      dsimp only
      rw [hhead]
      split
      · cases hjoins : q.joins <;> simp [Query.map, hjoins, Join.map]
      · exact writer_items q.projection
  | sql =>
      cases hprojection : q.projection with
      | nil => simp [Query.map, hprojection]
      | cons a as =>
          have hitems := writer_items (v := v) (a :: as)
          simpa [Query.map, hprojection] using hitems

theorem writer_selectWord :
    (Setup.selectWord q).writer v.placeholders =
      selectWord (q.map (Operand.draft v.placeholders)) := by
  unfold Setup.selectWord selectWord
  rw [Query.flagsAt_map, List.isEmpty_map]
  split
  · rfl
  · exact writer_flagText q .startOverride

theorem writer_projected :
    (v.toSetup.projected q).writer v.placeholders =
      v.projected (q.map (Operand.draft v.placeholders)) := by
  unfold Setup.projected projected
  cases hprojection : q.projection with
  | nil =>
      cases v.profile.family <;> cases hjoins : q.joins <;>
        simp [Query.map, hprojection, hjoins, Join.map]
  | cons a as =>
      have hitems := writer_items (v := v) (a :: as)
      simpa [Query.map, hprojection] using hitems

theorem writer_head (forCount : Bool) (projection : Option String) :
    (v.toSetup.head q forCount projection).writer v.placeholders =
      v.head (q.map (Operand.draft v.placeholders)) forCount projection := by
  cases projection with
  | some text => rfl
  | none =>
      cases forCount with
      | true =>
          rw [Setup.head, Rendering.writer_between, writer_countTarget]
          rfl
      | false =>
          simp [Setup.head, head, writer_selectWord, writer_flagText, writer_projected]

theorem writer_clause (keyword : String) (a : Option Operand) :
    (Setup.clause keyword (a.map Operand.render)).writer v.placeholders =
      clause keyword ((a.map (Operand.draft v.placeholders)).map Draft.write) := by
  cases a <;> simp [Setup.clause, clause]

theorem writer_listClause (keyword separator : String) (rs : List Rendering) :
    (Setup.listClause keyword separator rs).writer v.placeholders =
      listClause keyword separator (rs.map (Rendering.writer v.placeholders)) := by
  unfold Setup.listClause listClause
  rw [List.isEmpty_map]
  split <;> simp

theorem writer_clauses (forCount : Bool) :
    (v.toSetup.clauses q forCount).writer v.placeholders =
      v.clauses (q.map (Operand.draft v.placeholders)) forCount := by
  have hfrom : (Setup.clause "\nfrom " (if q.joins.isEmpty then none
      else some (v.toSetup.sources forCount q.joins))).writer v.placeholders =
        clause "\nfrom " (if (q.map (Operand.draft v.placeholders)).joins.isEmpty then none
          else some (v.sources forCount (q.map (Operand.draft v.placeholders)).joins)) := by
    cases hjoins : q.joins with
    | nil => simp [Query.map, hjoins, Setup.clause, clause]
    | cons j js => simp [Query.map, hjoins, Setup.clause, clause, writer_sources]
  simp only [Setup.clauses, clauses, Rendering.writer_concat, List.map_cons, List.map_nil, hfrom,
    writer_flagText, writer_clause, writer_listClause]
  simp [Query.map, Function.comp_def]

theorem writer_ordering :
    (v.toSetup.ordering q).writer v.placeholders =
      v.ordering (q.map (Operand.draft v.placeholders)) := by
  simp only [Setup.ordering, ordering, Rendering.writer_concat, List.map_cons, List.map_nil,
    writer_flagText, writer_listClause, writer_limits]
  simp [Query.map, Function.comp_def, writer_orderKey]

theorem writer_select (forCount : Bool) (projection : Option String) :
    (v.toSetup.select q forCount projection).writer v.placeholders =
      v.select (q.map (Operand.draft v.placeholders)) forCount projection := by
  have hempty : (q.map (Operand.draft v.placeholders)).joins.isEmpty = q.joins.isEmpty := by
    simp [Query.map]
  unfold Setup.select select
  rw [hempty]
  split
  · rfl
  · rw [Rendering.writer_select]
    cases forCount <;>
      simp [writer_flagText, writer_head, writer_clauses, writer_ordering]

/-! ## Renderings of numbered rows -/

theorem numberingElements_map (nullsOrdering : Bool) (index : Nat) (before : String)
    (keys : List (OrderKey Operand)) :
    numberingElements nullsOrdering index before
        (keys.map (OrderKey.map (Operand.draft v.placeholders))) =
      Setup.numberingElements nullsOrdering index before keys := by
  induction keys generalizing index before with
  | nil => rfl
  | cons key keys ih =>
      rw [List.map_cons, numberingElements, Setup.numberingElements, List.isEmpty_map, ih]
      rfl

variable (keys : List (OrderKey Operand))

theorem draft_rowNumber :
    (v.toSetup.rowNumber keys).draft v.placeholders =
      v.rowNumber (keys.map (OrderKey.map (Operand.draft v.placeholders))) := by
  simp only [Setup.rowNumber, rowNumber, draft_template, List.isEmpty_map, numberingElements_map,
    List.map_map]
  rfl

theorem draft_rowNumberColumn :
    (v.toSetup.rowNumberColumn keys).draft v.placeholders =
      v.rowNumberColumn (keys.map (OrderKey.map (Operand.draft v.placeholders))) := by
  simp only [Setup.rowNumberColumn, rowNumberColumn, draft_template, List.map_cons, List.map_nil,
    draft_operation, draft_rowNumber, draft_rootStep]

/-- Flags are compared by their expressions, which drafts keep. -/
theorem addFlag_map (flag : Flag Operand) :
    (q.addFlag flag).map (Operand.draft v.placeholders) =
      (q.map (Operand.draft v.placeholders)).addFlag
        (flag.map (Operand.draft v.placeholders)) := by
  have heqv : ∀ c c' : FlagContent Operand,
      (c.map (Operand.draft v.placeholders)).eqv (c'.map (Operand.draft v.placeholders)) =
        c.eqv c' := by
    intro c c'
    cases c with
    | text text => cases c' <;> rfl
    | expr a =>
        cases c' with
        | text text => rfl
        | expr b =>
            show ((a.draft v.placeholders).expr == (b.draft v.placeholders).expr) =
              (a.expr == b.expr)
            rw [Operand.expr_draft, Operand.expr_draft]
  have hany : (q.map (Operand.draft v.placeholders)).flags.any
      (fun f ↦ f.position == flag.position &&
        f.content.eqv (flag.content.map (Operand.draft v.placeholders))) =
      q.flags.any fun f ↦ f.position == flag.position && f.content.eqv flag.content := by
    simp only [Query.map, List.any_map, Function.comp_def, Flag.map, heqv]
  unfold Query.addFlag
  simp only [Flag.map, hany]
  split
  · rfl
  · simp [Query.map, Flag.map]

theorem writer_select_limited (top : Template) (limit : UInt64) (projection : Option String) :
    (v.toSetup.select (q.addFlag ⟨.afterSelect, .expr (v.toSetup.template .i64 top
        [v.toSetup.count limit])⟩) false projection).writer v.placeholders =
      v.select ((q.map (Operand.draft v.placeholders)).addFlag
        ⟨.afterSelect, .expr (v.template .i64 top [v.count limit])⟩) false projection := by
  rw [writer_select, addFlag_map]
  simp only [Flag.map, FlagContent.map, draft_template, List.map_cons, List.map_nil, draft_count]

theorem writer_select_numbered (projection : Option String) :
    (v.toSetup.select { q.addFlag ⟨.afterProjection, .expr (v.toSetup.rowNumberColumn keys)⟩ with
        orderBy := [] } false projection).writer v.placeholders =
      v.select { (q.map (Operand.draft v.placeholders)).addFlag ⟨.afterProjection,
        .expr (v.rowNumberColumn (keys.map (OrderKey.map (Operand.draft v.placeholders))))⟩ with
          orderBy := [] } false projection := by
  have hnumbered := congrArg (fun q : Query Draft ↦ { q with orderBy := [] })
    (addFlag_map (v := v) q ⟨.afterProjection, .expr (v.toSetup.rowNumberColumn keys)⟩)
  simp only [Flag.map, FlagContent.map, draft_rowNumberColumn] at hnumbered
  rw [writer_select, ← hnumbered]
  rfl

theorem writer_rowNumbered (top : Template) (forms : LimitForms Template)
    (projection : Option String) :
    (v.toSetup.rowNumbered top forms q projection).writer v.placeholders =
      v.rowNumbered top forms (q.map (Operand.draft v.placeholders)) projection := by
  have hinner : { (q.map (Operand.draft v.placeholders)).removeFlagsAt .finish with
      modifiers := {} } =
        Query.map (Operand.draft v.placeholders)
          { q.removeFlagsAt .finish with modifiers := {} } := by
    rw [Query.removeFlagsAt_map]
    rfl
  have hmodifiers : (q.map (Operand.draft v.placeholders)).modifiers = q.modifiers := rfl
  have hkeys : (q.map (Operand.draft v.placeholders)).orderBy =
      q.orderBy.map (OrderKey.map (Operand.draft v.placeholders)) := rfl
  unfold Setup.rowNumbered rowNumbered
  simp only [Rendering.writer_append, writer_flagText, hinner, hmodifiers, hkeys]
  congr 1
  cases q.modifiers.limit with
  | none =>
      cases q.modifiers.offset with
      | none => exact writer_select _ _ _
      | some offset =>
          simp only [Rendering.writer_append, Rendering.writer_text, writer_select_numbered,
            writer_apply, List.map_cons, List.map_nil, draft_count]
  | some limit =>
      cases q.modifiers.offset with
      | none => exact writer_select_limited _ top limit projection
      | some offset =>
          simp only [Rendering.writer_append, Rendering.writer_text, writer_select_numbered,
            writer_apply, List.map_cons, List.map_nil, draft_count]

theorem writer_query (forCount : Bool) (projection : Option String) :
    (v.toSetup.query q forCount projection).writer v.placeholders =
      v.query (q.map (Operand.draft v.placeholders)) forCount projection := by
  have hempty : (q.map (Operand.draft v.placeholders)).joins.isEmpty = q.joins.isEmpty := by
    simp [Query.map]
  unfold Setup.query query
  rw [hempty]
  cases v.profile.pagination with
  | topRowNumber top forms =>
      dsimp only
      have hmodifiers : (q.map (Operand.draft v.placeholders)).modifiers = q.modifiers := rfl
      rw [hmodifiers]
      split
      · exact writer_rowNumbered q top forms projection
      · exact writer_select q forCount projection
  | _ => exact writer_select q forCount projection

end Visitor

end TypedQuery
