import TypedQuery.Proofs.Injection.Selects
import TypedQuery.Statement

/-!
# Statements over constants with other strings

Guarded requests that are the same up to the contents of their string constants make the same text
with as many bindings, or fail with the same error. The induction is on two expressions at once, of
which only the first one needs to be guarded.
-/

namespace TypedQuery

open List (Forall₂)

namespace Setup

variable {s : Setup}

theorem isText_flagOperands (flags : List (Flag Expr)) :
    (s.flagOperands flags).all Flag.isText = flags.all Flag.isText := by
  induction flags with
  | nil => rfl
  | cons f flags ih =>
      obtain ⟨position, content⟩ := f
      cases content <;> simp [flagOperands, Flag.isText, ih]

theorem isText_of_isGuarded {q : Query Expr} (hq : q.isGuarded s.profile.registry = true) :
    (s.queryOperands q).flags.all Flag.isText = true := by
  cases q
  simp only [Query.isGuarded, Bool.and_eq_true] at hq
  exact (isText_flagOperands _).trans hq.2

/-! ## Expressions -/

theorem value?_pathOperand (p : Path) : (s.pathOperand p).value? = none := by
  cases p <;> rfl

/-- A path is no constant, so that no template can write it out. -/
theorem slotsAgree_of_parent (t : Template) (p p' : Path) (as : List Operand) :
    SlotsAgree t (s.pathOperand p :: as) (s.pathOperand p' :: as) := by
  rintro (_ | i) _
  · simp [value?_pathOperand]
  · rfl

mutual

theorem alike_operand (hs : s.profile.BindsStrings) :
    ∀ e e' : Expr, e.masked = e'.masked → e.isGuarded s.profile.registry = true →
      (s.operand e).Alike (s.operand e')
  | .constant c, e', h, _ => by
      cases e' <;> simp only [Expr.masked, reduceCtorEq, Expr.constant.injEq] at h
      exact alike_constant h
  | .param p, e', h, _ => by
      cases e' <;> simp only [Expr.masked, reduceCtorEq, Expr.param.injEq] at h
      subst h
      exact .refl _
  | .path p, e', h, hg => by
      cases e' <;> simp only [Expr.masked, reduceCtorEq, Expr.path.injEq] at h
      exact alike_pathOperand hs p _ h hg
  | .operation type operator args, e', h, hg => by
      cases e' <;> simp only [Expr.masked, reduceCtorEq, Expr.operation.injEq] at h
      obtain ⟨rfl, rfl, hargs⟩ := h
      simp only [Expr.isGuarded, Bool.and_eq_true] at hg
      exact alike_operation hs type (alike_operands hs args _ hargs hg.2) hg.1
  | .subQuery identity type q, e', h, hg => by
      cases e' <;> simp only [Expr.masked, reduceCtorEq, Expr.subQuery.injEq] at h
      obtain ⟨rfl, rfl, hquery⟩ := h
      have hq := alike_queryOperands hs q _ hquery hg
      have hselect := alike_query hs hq (isText_of_isGuarded hg) false none
      exact ⟨congrArg (Expr.subQuery identity type) hquery, rfl, hselect.parenthesized⟩
  | .factory type maker args, e', h, hg => by
      cases e' <;> simp only [Expr.masked, reduceCtorEq, Expr.factory.injEq] at h
      obtain ⟨rfl, rfl, hargs⟩ := h
      exact alike_factory type maker (alike_operands hs args _ hargs hg)
  | .template type t args, e', h, hg => by
      cases e' <;> simp only [Expr.masked, reduceCtorEq, Expr.template.injEq] at h
      obtain ⟨rfl, rfl, hargs⟩ := h
      simp only [Expr.isGuarded, Bool.and_eq_true] at hg
      exact alike_template hs type (alike_operands hs args _ hargs hg.2)
        (slotsAgree_of_bindsAll hg.1)

theorem alike_pathOperand (hs : s.profile.BindsStrings) :
    ∀ p p' : Path, p.masked = p'.masked → p.isGuarded s.profile.registry = true →
      (s.pathOperand p).Alike (s.pathOperand p')
  | .root type name, p', h, _ => by
      cases p' <;> simp only [Path.masked, reduceCtorEq, Path.root.injEq] at h
      obtain ⟨rfl, rfl⟩ := h
      exact .refl _
  | .property type parent name, p', h, hg => by
      cases p' <;> simp only [Path.masked, reduceCtorEq, Path.property.injEq] at h
      obtain ⟨rfl, hparent, rfl⟩ := h
      have hp := alike_pathOperand hs parent _ hparent hg
      have howner := Path.type_eq_of_masked hparent
      simp only [pathOperand, propertyStep, ← howner]
      refine alike_step hs (by simp [Path.masked, hparent]) (.cons hp (.cons (.refl _) .nil)) ?_
      exact fun e _ ↦ slotsAgree_of_parent _ parent _ _
  | .listValue type parent index, p', h, hg => by
      cases p' <;> simp only [Path.masked, reduceCtorEq, Path.listValue.injEq] at h
      obtain ⟨rfl, hparent, hindex⟩ := h
      simp only [Path.isGuarded, Bool.and_eq_true] at hg
      have hp := alike_pathOperand hs parent _ hparent hg.1
      have hi := alike_operand hs index _ hindex hg.2
      refine alike_step hs (by simp [Path.masked, hparent, hindex]) (.cons hp (.cons hi .nil)) ?_
      exact slotsAgree_of_registry (hs.path .listValue (by simp))
  | .listIndex type parent index, p', h, hg => by
      cases p' <;> simp only [Path.masked, reduceCtorEq, Path.listIndex.injEq] at h
      obtain ⟨rfl, hparent, rfl⟩ := h
      have hp := alike_pathOperand hs parent _ hparent hg
      refine alike_step hs (by simp [Path.masked, hparent]) (.cons hp (.cons (.refl _) .nil)) ?_
      exact fun e _ ↦ slotsAgree_of_parent _ parent _ _
  | .mapValue type parent key, p', h, hg => by
      cases p' <;> simp only [Path.masked, reduceCtorEq, Path.mapValue.injEq] at h
      obtain ⟨rfl, hparent, hkey⟩ := h
      simp only [Path.isGuarded, Bool.and_eq_true] at hg
      have hp := alike_pathOperand hs parent _ hparent hg.1
      have hk := alike_operand hs key _ hkey hg.2
      refine alike_step hs (by simp [Path.masked, hparent, hkey]) (.cons hp (.cons hk .nil)) ?_
      exact slotsAgree_of_registry (hs.path .mapValue (by simp))
  | .mapKey type parent key, p', h, hg => by
      cases p' <;> simp only [Path.masked, reduceCtorEq, Path.mapKey.injEq] at h
      obtain ⟨rfl, hparent, hkey⟩ := h
      have hp := alike_pathOperand hs parent _ hparent hg
      have hk := alike_value (s := s) hkey
      refine alike_step hs (by simp [Path.masked, hparent, hkey]) (.cons hp (.cons hk .nil)) ?_
      exact slotsAgree_of_registry (hs.path .mapKey (by simp))
  | .collectionAny type parent, p', h, hg => by
      cases p' <;> simp only [Path.masked, reduceCtorEq, Path.collectionAny.injEq] at h
      obtain ⟨rfl, hparent⟩ := h
      have hp := alike_pathOperand hs parent _ hparent hg
      refine alike_step hs (by simp [Path.masked, hparent]) (.cons hp .nil) ?_
      exact fun e _ ↦ slotsAgree_of_parent _ parent _ _

theorem alike_operands (hs : s.profile.BindsStrings) :
    ∀ es es' : List Expr, maskedExprs es = maskedExprs es' →
      guardedExprs s.profile.registry es = true →
      Forall₂ Operand.Alike (s.operands es) (s.operands es')
  | [], es', h, _ => by
      cases es' with
      | nil => exact .nil
      | cons e' es' => simp [maskedExprs] at h
  | e :: es, es', h, hg => by
      cases es' with
      | nil => simp [maskedExprs] at h
      | cons e' es' =>
          simp only [maskedExprs, List.cons.injEq] at h
          simp only [guardedExprs, Bool.and_eq_true] at hg
          exact .cons (alike_operand hs e e' h.1 hg.1) (alike_operands hs es es' h.2 hg.2)

theorem alike_operand? (hs : s.profile.BindsStrings) :
    ∀ e e' : Option Expr, maskedExpr? e = maskedExpr? e' →
      guardedExpr? s.profile.registry e = true →
      Option.Rel Operand.Alike (s.operand? e) (s.operand? e')
  | none, e', h, _ => by
      cases e' with
      | none => exact .none
      | some e' => simp [maskedExpr?] at h
  | some e, e', h, hg => by
      cases e' with
      | none => simp [maskedExpr?] at h
      | some e' =>
          simp only [maskedExpr?, Option.some.injEq] at h
          exact .some (alike_operand hs e e' h hg)

theorem alike_joinOperands (hs : s.profile.BindsStrings) :
    ∀ js js' : List (Join Expr), maskedJoins js = maskedJoins js' →
      guardedJoins s.profile.registry js = true →
      Forall₂ Join.Alike (s.joinOperands js) (s.joinOperands js')
  | [], js', h, _ => by
      cases js' with
      | nil => exact .nil
      | cons j' js' => simp [maskedJoins] at h
  | ⟨kind, target, condition, fetch, fetchAll⟩ :: js, js', h, hg => by
      cases js' with
      | nil => simp [maskedJoins] at h
      | cons j' js' =>
          obtain ⟨kind', target', condition', fetch', fetchAll'⟩ := j'
          simp only [maskedJoins, List.cons.injEq, Join.mk.injEq] at h
          obtain ⟨⟨rfl, htarget, hcondition, rfl, rfl⟩, hrest⟩ := h
          simp only [guardedJoins, Bool.and_eq_true] at hg
          have ht := alike_operand hs target target' htarget hg.1.1
          have hc := alike_operand? hs condition condition' hcondition hg.1.2
          exact .cons ⟨rfl, ht, hc, rfl, rfl⟩ (alike_joinOperands hs js js' hrest hg.2)

theorem alike_orderOperands (hs : s.profile.BindsStrings) :
    ∀ keys keys' : List (OrderKey Expr), maskedKeys keys = maskedKeys keys' →
      guardedKeys s.profile.registry keys = true →
      Forall₂ OrderKey.Alike (s.orderOperands keys) (s.orderOperands keys')
  | [], keys', h, _ => by
      cases keys' with
      | nil => exact .nil
      | cons k' keys' => simp [maskedKeys] at h
  | ⟨target, direction, nulls⟩ :: keys, keys', h, hg => by
      cases keys' with
      | nil => simp [maskedKeys] at h
      | cons k' keys' =>
          obtain ⟨target', direction', nulls'⟩ := k'
          simp only [maskedKeys, List.cons.injEq, OrderKey.mk.injEq] at h
          obtain ⟨⟨htarget, rfl, rfl⟩, hrest⟩ := h
          simp only [guardedKeys, Bool.and_eq_true] at hg
          have ht := alike_operand hs target target' htarget hg.1
          exact .cons ⟨ht, rfl, rfl⟩ (alike_orderOperands hs keys keys' hrest hg.2)

theorem alike_queryOperands (hs : s.profile.BindsStrings) :
    ∀ q q' : Query Expr, q.masked = q'.masked → q.isGuarded s.profile.registry = true →
      (s.queryOperands q).Alike (s.queryOperands q')
  | ⟨projection, joins, filter, groupBy, having, orderBy, modifiers, distinct, unique, flags,
      params⟩, q', h, hg => by
      cases q'
      simp only [Query.masked, Query.mk.injEq] at h
      obtain ⟨hprojection, hjoins, hfilter, hgroupBy, hhaving, horderBy, rfl, rfl, _, rfl, _⟩ := h
      simp only [Query.isGuarded, Bool.and_eq_true] at hg
      obtain ⟨⟨⟨⟨⟨⟨gprojection, gjoins⟩, gfilter⟩, ggroupBy⟩, ghaving⟩, gorderBy⟩, _⟩ := hg
      exact
        { projection := alike_operands hs _ _ hprojection gprojection
          joins := alike_joinOperands hs _ _ hjoins gjoins
          filter := alike_operand? hs _ _ hfilter gfilter
          groupBy := alike_operands hs _ _ hgroupBy ggroupBy
          having := alike_operand? hs _ _ hhaving ghaving
          orderBy := alike_orderOperands hs _ _ horderBy gorderBy
          modifiers := rfl
          distinct := rfl
          flags := List.forall₂_same.mpr fun f _ ↦ .refl f }

end

/-! ## Statements that change data -/

theorem filter_queryOperands (q : Query Expr) :
    (s.queryOperands q).filter = q.filter.map s.operand := by
  cases q
  exact operand?_eq_map s _

theorem joins_queryOperands (q : Query Expr) :
    (s.queryOperands q).joins = s.joinOperands q.joins := by
  cases q
  rfl

theorem alike_whereClause {q q' : Query Expr}
    (h : (s.queryOperands q).Alike (s.queryOperands q')) :
    (s.whereClause q).Alike (s.whereClause q') := by
  have hfilter := rel_render h.filter
  rw [filter_queryOperands, filter_queryOperands, Option.map_map, Option.map_map] at hfilter
  exact alike_clause _ hfilter

theorem assignment_of_null {a : Path × Expr} (h : a.2.value? = some .null) :
    s.assignment a = (s.pathOperand a.1).render ++ .text " = " ++ .text "null" := by
  simp only [assignment, h]

theorem assignment_of_ne_null {a : Path × Expr} (h : a.2.value? ≠ some .null) :
    s.assignment a = (s.pathOperand a.1).render ++ .text " = " ++ s.expr a.2 := by
  simp only [assignment]

theorem alike_assignment (hs : s.profile.BindsStrings) {a b : Path × Expr}
    (hpath : a.1.masked = b.1.masked) (hvalue : a.2.masked = b.2.masked)
    (hgpath : a.1.isGuarded s.profile.registry = true)
    (hgvalue : a.2.isGuarded s.profile.registry = true) :
    (s.assignment a).Alike (s.assignment b) := by
  have htarget := (alike_pathOperand hs a.1 b.1 hpath hgpath).render.append (.refl (.text " = "))
  have hnull : ∀ v : Value, v.masked = Value.null.masked → v = .null := by
    intro v hv
    cases v <;> simp_all [Value.masked]
  by_cases ha : a.2.value? = some .null
  · have hb := Expr.value?_eq_of_masked hvalue hnull ha
    rw [assignment_of_null ha, assignment_of_null hb]
    exact htarget.append (.refl _)
  · have hb : b.2.value? ≠ some .null := fun hb ↦
      ha (Expr.value?_eq_of_masked hvalue.symm hnull hb)
    rw [assignment_of_ne_null ha, assignment_of_ne_null hb]
    exact htarget.append (alike_operand hs a.2 b.2 hvalue hgvalue).render

theorem columns_masked (before : String) (root : Path) (ps : List Path) :
    s.columns before root.masked (ps.map Path.masked) = s.columns before root ps := by
  have hcolumn : s.column root.masked ∘ Path.masked = s.column root := by
    funext p
    simp [column]
  simp [columns, List.map_map, hcolumn]

theorem columns_eq_of_masked {root root' : Path} (hroot : root.masked = root'.masked)
    {ps ps' : List Path} (hps : ps.map Path.masked = ps'.map Path.masked) (before : String) :
    s.columns before root ps = s.columns before root' ps' := by
  rw [← columns_masked, hroot, hps, columns_masked]

theorem forall₂_of_map_eq {α β : Type} {f : α → β} {R : α → α → Prop} {xs ys : List α}
    (h : xs.map f = ys.map f) (hR : ∀ x ∈ xs, ∀ y, f x = f y → R x y) : Forall₂ R xs ys := by
  induction xs generalizing ys with
  | nil =>
      obtain rfl := List.map_eq_nil_iff.mp h.symm
      exact .nil
  | cons x xs ih =>
      cases ys with
      | nil => cases h
      | cons y ys =>
          simp only [List.map_cons, List.cons.injEq] at h
          exact .cons (hR x List.mem_cons_self y h.1)
            (ih h.2 fun z hz ↦ hR z (List.mem_cons_of_mem x hz))

theorem alike_rowSource (hs : s.profile.BindsStrings) {source source' : RowSource}
    (h : source.masked = source'.masked) (hg : source.isGuarded s.profile.registry = true) :
    (s.rowSource source).Alike (s.rowSource source') := by
  cases source with
  | rows rs =>
      cases source' <;> simp only [RowSource.masked, reduceCtorEq, RowSource.rows.injEq] at h
      rename_i rs'
      have hrows : Forall₂ Rendering.Alike
          (rs.map fun row ↦ (Rendering.commas (row.map s.expr)).parenthesized)
          (rs'.map fun row ↦ (Rendering.commas (row.map s.expr)).parenthesized) := by
        simp only [List.forall₂_map_left_iff, List.forall₂_map_right_iff]
        refine forall₂_of_map_eq h fun row hrow row' heq ↦ ?_
        have hgrow := List.all_eq_true.mp hg row hrow
        have hitems := alike_operands hs row row' (by simpa using heq) (by simpa using hgrow)
        have hcommas := Rendering.Alike.commas (Operand.Alike.forall₂_render hitems)
        rw [operands_eq_map, operands_eq_map, List.map_map, List.map_map] at hcommas
        exact hcommas.parenthesized
      have hempty : rs.isEmpty = rs'.isEmpty := by
        simpa using isEmpty_eq_of_forall₂ hrows
      simp only [rowSource, hempty]
      split
      · exact .refl _
      · exact (Rendering.Alike.refl _).append (.commas hrows)
  | query q =>
      cases source' <;> simp only [RowSource.masked, reduceCtorEq, RowSource.query.injEq] at h
      have hq := alike_queryOperands hs q _ h hg
      exact (Rendering.Alike.refl _).append (alike_query hs hq (isText_of_isGuarded hg) _ _)

theorem alike_delete {q q' : Query Expr} (h : (s.queryOperands q).Alike (s.queryOperands q')) :
    (s.delete q).Alike (s.delete q') := by
  have hjoins := h.joins
  have hwhere := alike_whereClause h
  rw [joins_queryOperands, joins_queryOperands] at hjoins
  unfold delete
  cases hq : q.joins <;> cases hq' : q'.joins <;> rw [hq, hq'] at hjoins
  · exact .refl _
  · cases hjoins
  · cases hjoins
  · obtain _ | ⟨hfirst, _⟩ := hjoins
    exact ((Rendering.Alike.refl _).append (alike_source hfirst.target)).append hwhere

theorem alike_update (hs : s.profile.BindsStrings) {q q' : Query Expr}
    (h : (s.queryOperands q).Alike (s.queryOperands q')) {as bs : List (Path × Expr)}
    (has : as.map (fun a ↦ (a.1.masked, a.2.masked)) =
      bs.map (fun a ↦ (a.1.masked, a.2.masked)))
    (hg : (as.all fun a ↦ a.1.isGuarded s.profile.registry &&
      a.2.isGuarded s.profile.registry) = true) :
    (s.update q as).Alike (s.update q' bs) := by
  have hjoins := h.joins
  have hwhere := alike_whereClause h
  have hassignments : Forall₂ Rendering.Alike (as.map s.assignment) (bs.map s.assignment) := by
    simp only [List.forall₂_map_left_iff, List.forall₂_map_right_iff]
    refine forall₂_of_map_eq has fun a ha b hab ↦ ?_
    have hga := List.all_eq_true.mp hg a ha
    simp only [Bool.and_eq_true] at hga
    simp only [Prod.mk.injEq] at hab
    exact alike_assignment hs hab.1 hab.2 hga.1 hga.2
  have hempty : as.isEmpty = bs.isEmpty := by simpa using isEmpty_eq_of_forall₂ hassignments
  rw [joins_queryOperands, joins_queryOperands] at hjoins
  unfold update
  rw [hempty]
  cases hq : q.joins <;> cases hq' : q'.joins <;> rw [hq, hq'] at hjoins
  · exact .refl _
  · cases hjoins
  · cases hjoins
  · obtain _ | ⟨hfirst, _⟩ := hjoins
    simp only
    split
    · exact .refl _
    · have hsource := alike_source (s := s) hfirst.target
      have hhead := ((Rendering.Alike.refl (.text "update ")).append hsource).append
        (.refl (.text "\nset "))
      exact (hhead.append (.commas hassignments)).append hwhere

/-- Requests that are the same once masked are written alike, if the first one is guarded. -/
theorem alike_rendering (hs : s.profile.BindsStrings) {r r' : Request}
    (h : r.masked = r'.masked) (hg : r.isGuarded s.profile.registry = true) :
    (r.rendering s).Alike (r'.rendering s) := by
  cases r with
  | query q forCount projection =>
      cases r' <;> simp only [Request.masked, reduceCtorEq, Request.query.injEq] at h
      obtain ⟨hq, rfl, rfl⟩ := h
      exact alike_query hs (alike_queryOperands hs q _ hq hg) (isText_of_isGuarded hg) _ _
  | expr e =>
      cases r' <;> simp only [Request.masked, reduceCtorEq, Request.expr.injEq] at h
      exact (alike_operand hs e _ h hg).render
  | delete q =>
      cases r' <;> simp only [Request.masked, reduceCtorEq, Request.delete.injEq] at h
      exact alike_delete (alike_queryOperands hs q _ h hg)
  | update q assignments =>
      cases r' <;> simp only [Request.masked, reduceCtorEq, Request.update.injEq] at h
      simp only [Request.isGuarded, Bool.and_eq_true] at hg
      exact alike_update hs (alike_queryOperands hs q _ h.1 hg.1) h.2 hg.2
  | insert root columns source =>
      cases r' <;> simp only [Request.masked, reduceCtorEq, Request.insert.injEq] at h
      obtain ⟨hroot, hcolumns, hsource⟩ := h
      simp only [Request.rendering, insert, hs.sql, Path.type_eq_of_masked hroot,
        columns_eq_of_masked hroot hcolumns]
      exact (Rendering.Alike.refl _).append (alike_rowSource hs hsource hg)
  | merge root keys columns source =>
      cases r' <;> simp only [Request.masked, reduceCtorEq, Request.merge.injEq] at h
      obtain ⟨hroot, hkeys, hcolumns, hsource⟩ := h
      simp only [Request.rendering, merge, Path.type_eq_of_masked hroot,
        columns_eq_of_masked hroot hcolumns, columns_eq_of_masked hroot hkeys]
      split
      · exact (Rendering.Alike.refl _).append (alike_rowSource hs hsource hg)
      · exact .refl _

end Setup

end TypedQuery
