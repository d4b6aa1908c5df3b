import TypedQuery.Proofs.Nesting.Selects

/-!
# Statements over a sub-query that is replaced

By induction on expressions, what joined renderings inherit holds of a whole request of SQL as soon
as it holds of the query in parentheses that replaces a sub-query.
-/

namespace TypedQuery

open Operand (Uniform)
open Rendering (IsCongruence)

namespace Setup

variable {P : Nested Rendering → Prop} {k : Nat} {s : Setup}

/-- An operand that depends on the query of a sub-query. -/
def nestedOperand (s : Setup) (k : Nat) (e : Expr) : Nested Operand := fun q ↦
  s.operand (e.withQuery k q)

def nestedPath (s : Setup) (k : Nat) (p : Path) : Nested Operand := fun q ↦
  s.pathOperand (p.withQuery k q)

theorem queryOperands_withQuery (s : Setup) (k : Nat) (q inner : Query Expr) :
    s.queryOperands (Query.withQuery k q inner) = (inner.map (s.nestedOperand k)).map (· q) := by
  rw [queryOperands_eq_map, Query.withQuery_eq_map, Query.map_map, Query.map_map]
  rfl

theorem operands_withQuery (s : Setup) (k : Nat) (q : Query Expr) (args : List Expr) :
    s.operands (withQueryExprs k q args) = (args.map (s.nestedOperand k)).map (· q) := by
  rw [operands_eq_map, withQueryExprs_eq_map, List.map_map, List.map_map]
  rfl

/-! ## Expressions -/

theorem hereditary_uniform (hP : IsCongruence P) (hsql : s.profile.family = .sql)
    (hnode : P fun q ↦ (s.query (s.queryOperands q) false none).parenthesized) :
    Hereditary (fun e ↦ Uniform P k (s.nestedOperand k e))
      fun p ↦ Uniform P k (s.nestedPath k p) where
  constant c := uniform_constant hP c
  param p := .const hP (e := .param p) fun _ ↦ rfl
  path p h := h
  operation type operator args h := by
    have hoperation := uniform_operation (s := s) hP hsql type operator
      (l := args.map (s.nestedOperand k)) (List.forall_mem_map.mpr h)
    simp only [← operands_withQuery] at hoperation
    exact hoperation
  subQuery identity type inner h := by
    by_cases hidentity : identity = k
    · refine ⟨⟨.subQuery identity type inner, fun q ↦ ?_⟩, ⟨none, fun _ ↦ rfl⟩, ?_⟩
      · rfl
      · simpa [nestedOperand, Expr.withQuery, operand, Operand.render, hidentity] using hnode
    · have hquery := congruent_query (s := s) hP hsql h.map false none
      refine ⟨⟨.subQuery identity type inner, fun q ↦ ?_⟩, ⟨none, fun _ ↦ rfl⟩, ?_⟩
      · rfl
      · simp only [nestedOperand, Expr.withQuery, operand, Operand.render, if_neg hidentity,
          queryOperands_withQuery]
        exact hP.between "(" ")" hquery
  factory type maker args h := by
    have hfactory := uniform_factory hP type maker (l := args.map (s.nestedOperand k))
      (List.forall_mem_map.mpr h)
    simp only [← operands_withQuery] at hfactory
    exact hfactory
  template type t args h := by
    have htemplate := uniform_template (s := s) hP type t (l := args.map (s.nestedOperand k))
      (List.forall_mem_map.mpr h)
    simp only [← operands_withQuery] at htemplate
    exact htemplate
  root type name := uniform_step hP (.root type name) (l := [fun _ ↦ _])
    (List.forall_mem_singleton.mpr (uniform_string hP _))
  property type parent name h := by
    have hstep := uniform_step (s := s) hP (.property type parent name) (l := [_, fun _ ↦ _])
      (List.forall_mem_cons.mpr ⟨h, List.forall_mem_singleton.mpr
        (uniform_string (s := s) hP (s.profile.quoteIdent (s.columnName parent.type name)))⟩)
    have hname : ∀ q : Query Expr, s.columnName (parent.withQuery k q).type name =
        s.columnName parent.type name := fun q ↦ by rw [Path.type_withQuery]
    unfold nestedPath
    simp only [Path.withQuery, pathOperand, propertyStep, hname]
    exact hstep
  listValue type parent index h hi :=
    uniform_step hP (.listValue type parent index) (l := [_, _])
      (List.forall_mem_cons.mpr ⟨h, List.forall_mem_singleton.mpr hi⟩)
  listIndex type parent index h :=
    uniform_step hP (.listIndex type parent index) (l := [_, fun _ ↦ _])
      (List.forall_mem_cons.mpr ⟨h, List.forall_mem_singleton.mpr (uniform_count hP index)⟩)
  mapValue type parent key h hk :=
    uniform_step hP (.mapValue type parent key) (l := [_, _])
      (List.forall_mem_cons.mpr ⟨h, List.forall_mem_singleton.mpr hk⟩)
  mapKey type parent key h :=
    uniform_step hP (.mapKey type parent key) (l := [_, fun _ ↦ _])
      (List.forall_mem_cons.mpr ⟨h, List.forall_mem_singleton.mpr (uniform_constant hP _)⟩)
  collectionAny type parent h :=
    uniform_step hP (.collectionAny type parent) (l := [_]) (List.forall_mem_singleton.mpr h)

theorem uniform_nestedOperand (hP : IsCongruence P) (hsql : s.profile.family = .sql)
    (hnode : P fun q ↦ (s.query (s.queryOperands q) false none).parenthesized) (e : Expr) :
    Uniform P k (s.nestedOperand k e) :=
  (hereditary_uniform hP hsql hnode).of_expr e

theorem congruent_nestedQuery (hP : IsCongruence P) (hsql : s.profile.family = .sql)
    (hnode : P fun q ↦ (s.query (s.queryOperands q) false none).parenthesized)
    (inner : Query Expr) (forCount : Bool) (projection : Option String) :
    P fun q ↦ s.query (s.queryOperands (Query.withQuery k q inner)) forCount projection := by
  have heach := (hereditary_uniform (k := k) hP hsql hnode).of_query inner
  simp only [queryOperands_withQuery]
  exact congruent_query hP hsql heach.map forCount projection

/-! ## Statements that change data -/

theorem congruent_whereClause (hP : IsCongruence P) {inner : Query Expr}
    (h : ∀ e ∈ inner.filter, Uniform P k (s.nestedOperand k e)) :
    P fun q ↦ s.whereClause (Query.withQuery k q inner) := by
  simp only [whereClause, Query.withQuery_eq_map, Query.map]
  cases hfilter : inner.filter with
  | none => exact hP.const .empty
  | some e => exact hP.append (hP.const (.text "\nwhere ")) (h e hfilter).render

theorem congruent_delete (hP : IsCongruence P) {inner : Query Expr}
    (h : inner.Each fun e ↦ Uniform P k (s.nestedOperand k e)) :
    P fun q ↦ s.delete (Query.withQuery k q inner) := by
  have hwhere := congruent_whereClause hP h.filter
  simp only [delete]
  simp only [Query.withQuery_eq_map, Query.map] at hwhere ⊢
  cases hjoins : inner.joins with
  | nil => exact hP.const (.fail .missingRoot)
  | cons j js =>
      have htarget := (h.joins j (hjoins ▸ List.mem_cons_self)).1
      exact hP.append (hP.append (hP.const (.text "delete from "))
        (congruent_source (s := s) hP htarget)) hwhere

theorem congruent_assignment (hP : IsCongruence P) {a : Path × Expr}
    (hpath : Uniform P k (s.nestedPath k a.1)) (hvalue : Uniform P k (s.nestedOperand k a.2)) :
    P fun q ↦ s.assignment (a.1.withQuery k q, a.2.withQuery k q) := by
  have hleft := hP.append hpath.render (hP.const (.text " = "))
  simp only [assignment, Expr.value?_withQuery]
  cases a.2.value? with
  | none => exact hP.append hleft hvalue.render
  | some v =>
      cases v with
      | null => exact hP.append hleft (hP.const (.text "null"))
      | _ => exact hP.append hleft hvalue.render

theorem congruent_update (hP : IsCongruence P) {inner : Query Expr}
    (h : inner.Each fun e ↦ Uniform P k (s.nestedOperand k e)) {assignments : List (Path × Expr)}
    (hassignments : ∀ a ∈ assignments, Uniform P k (s.nestedPath k a.1) ∧
      Uniform P k (s.nestedOperand k a.2)) :
    P fun q ↦ s.update (Query.withQuery k q inner)
      (assignments.map fun a ↦ (a.1.withQuery k q, a.2.withQuery k q)) := by
  have hwhere := congruent_whereClause hP h.filter
  have hset : P fun q ↦ .commas
      ((assignments.map fun a ↦ (a.1.withQuery k q, a.2.withQuery k q)).map s.assignment) := by
    simp only [List.map_map]
    exact hP.separated ", " fun a ha ↦
      congruent_assignment hP (hassignments a ha).1 (hassignments a ha).2
  simp only [update, List.isEmpty_map]
  simp only [Query.withQuery_eq_map, Query.map] at hwhere ⊢
  cases hjoins : inner.joins with
  | nil => exact hP.const (.fail .missingRoot)
  | cons j js =>
      have htarget := (h.joins j (hjoins ▸ List.mem_cons_self)).1
      cases assignments.isEmpty with
      | true => exact hP.const (.fail (.invalidArgument .noAssignments))
      | false =>
          exact hP.append (hP.append (hP.append (hP.append (hP.const (.text "update "))
            (congruent_source (s := s) hP htarget)) (hP.const (.text "\nset "))) hset) hwhere

theorem columns_withQuery (before : String) (root : Path) (ps : List Path) (q : Query Expr) :
    s.columns before (root.withQuery k q) (ps.map (Path.withQuery k q)) =
      s.columns before root ps := by
  have hcolumn : ∀ p : Path, s.column (root.withQuery k q) (p.withQuery k q) = s.column root p :=
    fun p ↦ by simp only [column, Path.name?_withQuery, Path.type_withQuery]
  simp only [columns, List.isEmpty_map, List.map_map, Function.comp_def, hcolumn]

theorem congruent_rowSource (hP : IsCongruence P) (hsql : s.profile.family = .sql)
    (hnode : P fun q ↦ (s.query (s.queryOperands q) false none).parenthesized)
    (source : RowSource) : P fun q ↦ s.rowSource (source.withQuery k q) := by
  cases source with
  | rows rows =>
      simp only [RowSource.withQuery, rowSource, List.isEmpty_map, List.map_map]
      cases rows.isEmpty with
      | true => exact hP.const (.fail (.invalidArgument .noRows))
      | false =>
          refine hP.append (hP.const (.text "\nvalues ")) (hP.separated ", " fun row _ ↦ ?_)
          simp only [Function.comp_def, List.map_map]
          refine hP.between "(" ")" (hP.separated ", " fun e _ ↦ ?_)
          exact (uniform_nestedOperand hP hsql hnode e).render
  | query inner =>
      exact hP.append (hP.const (.text "\n")) (congruent_nestedQuery hP hsql hnode inner false none)

/-- A request of SQL inherits what holds of the query in parentheses that replaces a sub-query. -/
theorem congruent_rendering (hP : IsCongruence P) (hsql : s.profile.family = .sql)
    (hnode : P fun q ↦ (s.query (s.queryOperands q) false none).parenthesized) (r : Request) :
    P fun q ↦ (r.withQuery k q).rendering s := by
  have hereditary := hereditary_uniform (k := k) hP hsql hnode
  have hsource := congruent_rowSource (k := k) hP hsql hnode
  cases r with
  | query inner forCount projection =>
      exact congruent_nestedQuery hP hsql hnode inner forCount projection
  | expr e => exact (hereditary.of_expr e).render
  | delete inner => exact congruent_delete hP (hereditary.of_query inner)
  | update inner assignments =>
      exact congruent_update hP (hereditary.of_query inner) fun a _ ↦
        ⟨hereditary.of_path a.1, hereditary.of_expr a.2⟩
  | insert root columns source =>
      simp only [Request.withQuery, Request.rendering, insert, hsql, columns_withQuery,
        Path.type_withQuery]
      exact hP.append (hP.const _) (hsource source)
  | merge root keys columns source =>
      simp only [Request.withQuery, Request.rendering, merge, columns_withQuery,
        Path.type_withQuery]
      cases s.profile.capabilities.nativeMerge with
      | true => exact hP.append (hP.const _) (hsource source)
      | false => exact hP.const _

end Setup

end TypedQuery
