import TypedQuery.Proofs.Building
import TypedQuery.Proofs.Nesting.Selects
import TypedQuery.Statement

/-!
# Counts

A count is written from the sources of a query, its conditions, its groups and its projection. The
order and the limits of the query, what is fetched with its sources, and the flags that belong to
its order or to the word `select` leave no trace in it.
-/

namespace TypedQuery

/-- Whether the flags of a place are a part of counts. -/
def Position.isCounted : Position → Bool
  | startOverride | afterSelect | beforeOrder | afterOrder => false
  | _ => true

/-- A join without the fetching of its source. -/
def Join.unfetched {ε : Type} (j : Join ε) : Join ε := { j with fetch := false, fetchAll := false }

/-- Two queries that agree in everything that the rows they have depend on. -/
structure Query.SameRows {ε : Type} (q q' : Query ε) : Prop where
  projection : q.projection = q'.projection
  joins : q.joins.map Join.unfetched = q'.joins.map Join.unfetched
  filter : q.filter = q'.filter
  groupBy : q.groupBy = q'.groupBy
  having : q.having = q'.having
  distinct : q.distinct = q'.distinct
  flagsAt : ∀ position : Position, position.isCounted = true →
    q.flagsAt position = q'.flagsAt position

namespace Query.SameRows

variable {ε δ : Type}

theorem map {q q' : Query ε} (h : q.SameRows q') (f : ε → δ) : (q.map f).SameRows (q'.map f) where
  projection := congrArg (List.map f) h.projection
  joins := by
    have hjoin : Join.unfetched ∘ Join.map f = Join.map f ∘ Join.unfetched := rfl
    simp only [Query.map, List.map_map, hjoin]
    rw [← List.map_map, h.joins, List.map_map]
  filter := congrArg (Option.map f) h.filter
  groupBy := congrArg (List.map f) h.groupBy
  having := congrArg (Option.map f) h.having
  distinct := h.distinct
  flagsAt position hposition := by
    rw [flagsAt_map, flagsAt_map, h.flagsAt position hposition]

theorem flagText {q q' : Query Operand} (h : q.SameRows q') {position : Position}
    (hposition : position.isCounted = true) : q.flagText position = q'.flagText position := by
  rw [Query.flagText, Query.flagText, h.flagsAt position hposition]

end Query.SameRows

namespace Setup

variable {s : Setup} {q q' : Query Operand}

theorem joined_unfetched (j : Join Operand) : s.joined true j.unfetched = s.joined true j := by
  unfold joined Join.unfetched
  simp only [Bool.not_true, Bool.and_false, Bool.false_and]

/-- Fetching tells counted sources apart in nothing. -/
theorem sources_map_unfetched (js : List (Join Operand)) :
    s.sources true (js.map Join.unfetched) = s.sources true js := by
  cases js with
  | nil => rfl
  | cons first others =>
      simp only [List.map_cons, sources, List.map_map, joined_unfetched]
      congr 3
      funext j
      exact congrArg (_ ++ ·) (joined_unfetched j)

theorem sources_of_sameRows (h : q.SameRows q') :
    s.sources true q.joins = s.sources true q'.joins := by
  rw [← sources_map_unfetched, h.joins, sources_map_unfetched]

theorem isEmpty_joins_of_sameRows (h : q.SameRows q') :
    q.joins.isEmpty = q'.joins.isEmpty := by
  have hempty := congrArg List.isEmpty h.joins
  rwa [List.isEmpty_map, List.isEmpty_map] at hempty

/-- What is counted is written for the first source or for the projection. -/
theorem countTarget_of_sameRows (h : q.SameRows q') : s.countTarget q = s.countTarget q' := by
  have hjoins := h.joins
  unfold countTarget
  rw [h.projection]
  cases hq : q.joins with
  | nil =>
      rw [hq, List.map_nil, eq_comm, List.map_eq_nil_iff] at hjoins
      rw [hjoins]
  | cons j js =>
      rw [hq, List.map_cons, eq_comm, List.map_eq_cons_iff] at hjoins
      obtain ⟨j', js', hq', hj, _⟩ := hjoins
      have htarget : j'.unfetched.target = j.unfetched.target := congrArg Join.target hj
      simp only [Join.unfetched] at htarget
      simp only [hq', htarget]

theorem head_of_sameRows (h : q.SameRows q') (projection : Option String) :
    s.head q true projection = s.head q' true projection := by
  cases projection with
  | some text => rfl
  | none => rw [head, head, countTarget_of_sameRows h, h.distinct]

theorem clauses_of_sameRows (h : q.SameRows q') : s.clauses q true = s.clauses q' true := by
  have hflags : ∀ position ∈ [Position.beforeFilters, .afterFilters, .beforeGroupBy,
      .afterGroupBy, .beforeHaving, .afterHaving],
      q.flagText position = q'.flagText position := by
    intro position hposition
    refine h.flagText ?_
    revert position
    decide
  rw [List.forall_mem_cons, List.forall_mem_cons, List.forall_mem_cons, List.forall_mem_cons,
    List.forall_mem_cons, List.forall_mem_singleton] at hflags
  obtain ⟨hbeforeFilters, hafterFilters, hbeforeGroups, hafterGroups, hbeforeHaving,
    hafterHaving⟩ := hflags
  unfold clauses
  rw [isEmpty_joins_of_sameRows h, sources_of_sameRows h, h.filter, h.groupBy, h.having,
    hbeforeFilters, hafterFilters, hbeforeGroups, hafterGroups, hbeforeHaving, hafterHaving]

theorem select_of_sameRows (h : q.SameRows q') (projection : Option String) :
    s.select q true projection = s.select q' true projection := by
  have hstart : q.flagText .start = q'.flagText .start := h.flagText rfl
  have hprojected : q.flagText .afterProjection = q'.flagText .afterProjection := h.flagText rfl
  have hfinish : q.flagText .finish = q'.flagText .finish := h.flagText rfl
  unfold select
  rw [isEmpty_joins_of_sameRows h, head_of_sameRows h, clauses_of_sameRows h, hstart, hprojected,
    hfinish]
  simp only [if_true]

/-- No way of writing limits concerns a count. -/
theorem query_eq_select_of_forCount (q : Query Operand) (projection : Option String) :
    s.query q true projection = s.select q true projection := by
  unfold query
  split
  · rw [Bool.not_true, Bool.false_and, Bool.false_and, if_neg Bool.false_ne_true]
  · rfl

end Setup

namespace Serializer

/-- In every dialect, counts over queries that agree in what their rows depend on fail with the same
error or have the same text and bindings. -/
theorem query_of_sameRows (s : Serializer) {q q' : Query Expr} (h : q.SameRows q')
    (projection : Option String) :
    (s.query q true projection).map (fun t ↦ (t.text, t.bindings)) =
      (s.query q' true projection).map fun t ↦ (t.text, t.bindings) := by
  have hrendering : s.setup.query (s.setup.queryOperands q) true projection =
      s.setup.query (s.setup.queryOperands q') true projection := by
    rw [Setup.query_eq_select_of_forCount, Setup.query_eq_select_of_forCount,
      Setup.queryOperands_eq_map, Setup.queryOperands_eq_map]
    exact Setup.select_of_sameRows (h.map _) projection
  unfold query statement
  rw [hrendering]
  cases s.setup.query (s.setup.queryOperands q') true projection {} <;> rfl

/-- The cats with a mate, locked for changes. -/
def matedCats : Query Expr :=
  { joins := [{ kind := .listed, target := .path (.entity "Cat" "cat") },
      { kind := .inner, target := .path (.property (.entity "Cat") (.entity "Cat" "cat") "mate") }]
    flags := [⟨.finish, .text "\nfor update"⟩] }

/-- A part of these cats in some order, with their mates. -/
def matedCatsPage : Query Expr :=
  { joins := [{ kind := .listed, target := .path (.entity "Cat" "cat"), fetchAll := true },
      { kind := .inner, fetch := true,
        target := .path (.property (.entity "Cat") (.entity "Cat" "cat") "mate") }]
    orderBy := [⟨.path (.property .i32 (.entity "Cat" "cat") "age"), .descending, .last⟩]
    modifiers := ⟨some 5, some 3⟩
    unique := true
    flags := [⟨.startOverride, .text "select straight_join "⟩, ⟨.finish, .text "\nfor update"⟩,
      ⟨.afterSelect, .text "top (5) "⟩, ⟨.afterOrder, .text " collate nocase"⟩]
    params := [(⟨.i32, "age"⟩, .i32 2)] }

theorem query_matedCatsPage : ∃ d, ("sql_server_2005", .ok d) ∈ Dialect.known ∧
    matedCatsPage.SameRows matedCats ∧
    (({ dialect := d } : Serializer).query matedCatsPage true none).map
        (fun t ↦ (t.text, t.bindings)) =
      (({ dialect := d } : Serializer).query matedCats true none).map
        fun t ↦ (t.text, t.bindings) := by
  have hmem : ("sql_server_2005", Dialect.sqlServer2005) ∈ Dialect.known := by
    simp [Dialect.known]
  obtain ⟨d, hd⟩ := Dialect.exists_of_mem_known _ hmem
  have hrows : matedCatsPage.SameRows matedCats :=
    { projection := rfl, joins := rfl, filter := rfl, groupBy := rfl, having := rfl,
      distinct := rfl
      flagsAt := fun position hposition ↦ by
        cases position with
        | startOverride | afterSelect | beforeOrder | afterOrder => cases hposition
        | _ => rfl }
  exact ⟨d, hd ▸ hmem, hrows, query_of_sameRows { dialect := d } hrows none⟩

end Serializer

end TypedQuery
